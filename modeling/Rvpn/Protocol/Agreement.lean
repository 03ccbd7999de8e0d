import Rvpn.Lib.HashMap
import Rvpn.Lib.Transparent
import Rvpn.Protocol.Completeness
import Rvpn.Protocol.Parties

/-!
# Handshake agreement

Any number of honest initiators and responders run concurrently, and the network is the attacker: it
chooses every event and invents every message. The ideal assumptions (`World.Allowed`) are made at the
very calls that check something. `World.agreement` says nothing about who a certified key belongs to:
`World.certified_response` is what a client in certificate mode learns about the other end.
-/

namespace Rvpn.Protocol
open Crypto Primitives

variable (P : Primitives)

/-- The honest instances by number, and the certificates issued. -/
structure World where
  initiators : HashMap Nat (InitiatorRun P)
  responders : HashMap Nat (ResponderRun P)
  issued : List (Bytes 32 × Bytes 32 × UInt64 × UInt64)

namespace InitiatorRun
variable {P}

def started {identity : AuthIdentity} {verifier : AuthVerifier} {ephemeral random : Option (Bytes 32)}
    {h : InitiatorHandshake} {message : HandshakeMessage}
    (ok : InitiatorHandshake.start P identity verifier ephemeral random = .ok (h, message)) :
    InitiatorRun P where
  handshake := h
  progress := .running
  shape := by
    obtain ⟨_, _, _, r, mac1, eq⟩ := InitiatorHandshake.start_ok ok
    exact ⟨r, none, mac1, eq⟩
  finished := by
    intro o eq
    cases eq

/-- `attach_cookie` on a running instance. -/
def attachCookie (run : InitiatorRun P) (cookie : Bytes 32) : InitiatorRun P :=
  match run.progress with
  | .running =>
    { handshake := run.handshake.attachCookie P cookie
      progress := .running
      shape := by
        obtain ⟨r, c, mac1, eq⟩ := run.shape
        simp only [InitiatorHandshake.attachCookie, eq]
        exact ⟨r, some cookie, _, rfl⟩
      finished := by
        intro o eq
        cases eq }
  | _ => run

def finishForSession (run : InitiatorRun P) (response : HandshakeMessage) (sid : SessionId)
    (keyPhase : UInt32) (clock : Clock) : InitiatorRun P :=
  match run.progress with
  | .running =>
    match ok : run.handshake.finishForSession P response sid keyPhase clock with
    | .ok (finish, session, remote) =>
      { handshake := run.handshake
        progress := .done ⟨response, sid, keyPhase, clock, finish, session, remote⟩
        shape := run.shape
        finished := by
          intro o eq
          cases eq
          exact ok }
    | .error _ =>
      { handshake := run.handshake
        progress := .failed
        shape := run.shape
        finished := by
          intro o eq
          cases eq }
  | _ => run

/-- A call keeps the ephemeral key pair, and all once it has ended. -/
structure Continues (run run' : InitiatorRun P) : Prop where
  keyPair : run'.handshake.keyPair = run.handshake.keyPair
  stopped : run.progress ≠ .running → run' = run

lemma Continues.refl (run : InitiatorRun P) : run.Continues run :=
  ⟨rfl, fun _ => rfl⟩

lemma attachCookie_cases (run : InitiatorRun P) (cookie : Bytes 32) :
    run.attachCookie cookie = run ∨ run.progress = .running ∧
      (run.attachCookie cookie).handshake.keyPair = run.handshake.keyPair ∧
      (run.attachCookie cookie).progress = .running := by
  unfold attachCookie
  split
  · next running =>
    refine .inr ⟨running, ?_, rfl⟩
    simp only [InitiatorHandshake.attachCookie]
    split <;> rfl
  · exact .inl rfl

lemma finishForSession_cases (run : InitiatorRun P) (response : HandshakeMessage) (sid : SessionId)
    (keyPhase : UInt32) (clock : Clock) :
    run.finishForSession response sid keyPhase clock = run ∨ run.progress = .running ∧
      (run.finishForSession response sid keyPhase clock).handshake = run.handshake ∧
      ∀ o, (run.finishForSession response sid keyPhase clock).progress = .done o →
        o.response = response := by
  unfold finishForSession
  split
  · next running =>
    refine .inr ⟨running, ?_⟩
    split
    · refine ⟨rfl, ?_⟩
      intro o eq
      cases eq
      rfl
    · exact ⟨rfl, nofun⟩
  · exact .inl rfl

end InitiatorRun

namespace ResponderRun
variable {P}

def started {identity : AuthIdentity} {verifier : AuthVerifier} {initiation : HandshakeMessage}
    {sid : SessionId} {keyPhase : UInt32} {secret random : Bytes 32} {h : ResponderHandshake P}
    {response : HandshakeMessage}
    (ok : ResponderHandshake.acceptForSession P identity verifier initiation sid keyPhase (some secret)
      (some random) = .ok (h, response)) : ResponderRun P where
  identity := identity
  initiation := initiation
  response := response
  secret := secret
  random := random
  handshake := h
  progress := .running
  accepted := by
    obtain ⟨_, _, _, _, _, _, _, _, _, _, _, _, _, _, _, _, eq⟩ :=
      ResponderHandshake.acceptForSession_ok ok
    have verifierEq : h.verifier = verifier := by rw [eq]
    have sidEq : h.sessionId = sid := by rw [eq]
    have phaseEq : h.keyPhase = keyPhase := by rw [eq]
    rw [verifierEq, sidEq, phaseEq]
    exact ok
  finished := by
    intro o eq
    cases eq

def finish (run : ResponderRun P) (fin : HandshakeMessage) (clock : Clock) : ResponderRun P :=
  match run.progress with
  | .running =>
    match ok : run.handshake.finish fin clock with
    | .ok (session, remote) =>
      { run with
        progress := .done ⟨fin, clock, session, remote⟩
        finished := by
          intro o eq
          cases eq
          exact ok }
    | .error _ =>
      { run with
        progress := .failed
        finished := by
          intro o eq
          cases eq }
  | _ => run

/-- A call keeps all but the progress, and that too once it has ended. -/
structure Continues (run run' : ResponderRun P) : Prop where
  identity : run'.identity = run.identity
  initiation : run'.initiation = run.initiation
  response : run'.response = run.response
  secret : run'.secret = run.secret
  stopped : run.progress ≠ .running → run' = run

lemma Continues.refl (run : ResponderRun P) : run.Continues run :=
  ⟨rfl, rfl, rfl, rfl, fun _ => rfl⟩

lemma finish_cases (run : ResponderRun P) (fin : HandshakeMessage) (clock : Clock) :
    run.finish fin clock = run ∨ run.Continues (run.finish fin clock) ∧
      (run.finish fin clock).handshake = run.handshake ∧
      ∀ o, (run.finish fin clock).progress = .done o → o.finish = fin := by
  unfold finish
  split
  · next running =>
    have ended : ∀ {run' : ResponderRun P}, run.progress ≠ .running → run' = run :=
      fun stopped => absurd running stopped
    right
    split
    · refine ⟨⟨rfl, rfl, rfl, rfl, ended⟩, rfl, ?_⟩
      intro o eq
      cases eq
      rfl
    · exact ⟨⟨rfl, rfl, rfl, rfl, ended⟩, rfl, nofun⟩
  · exact .inl rfl

end ResponderRun

namespace World
variable {P}

/-- No instance yet, and no certificate. -/
def empty : World P where
  initiators := ∅
  responders := ∅
  issued := []

/-- Every call of the two roles, with any arguments, and certificates. -/
inductive Event where
  | start (id : Nat) (identity : AuthIdentity) (verifier : AuthVerifier)
      (ephemeral random : Option (Bytes 32))
  | attachCookie (id : Nat) (cookie : Bytes 32)
  | finishForSession (id : Nat) (response : HandshakeMessage) (sessionId : SessionId)
      (keyPhase : UInt32) (clock : Clock)
  | accept (id : Nat) (identity : AuthIdentity) (verifier : AuthVerifier)
      (initiation : HandshakeMessage) (sessionId : SessionId) (keyPhase : UInt32)
      (secret random : Bytes 32)
  | finish (id : Nat) (fin : HandshakeMessage) (clock : Clock)
  | issue (seed subject : Bytes 32) (notBefore notAfter : UInt64)

/-- The effect of an event. The number of a new instance has to be unused. -/
def step (w : World P) : Event → World P
  | .start id identity verifier ephemeral random =>
    if id ∈ w.initiators then w
    else
      match ok : InitiatorHandshake.start P identity verifier ephemeral random with
      | .ok (_, _) => { w with initiators := w.initiators.insert id (InitiatorRun.started ok) }
      | .error _ => w
  | .attachCookie id cookie =>
    { w with initiators := HashMap.modify id (·.attachCookie cookie) w.initiators }
  | .finishForSession id response sid keyPhase clock =>
    { w with
      initiators :=
        HashMap.modify id (·.finishForSession response sid keyPhase clock) w.initiators }
  | .accept id identity verifier initiation sid keyPhase secret random =>
    if id ∈ w.responders then w
    else
      match ok : ResponderHandshake.acceptForSession P identity verifier initiation sid keyPhase
          (some secret) (some random) with
      | .ok (_, _) => { w with responders := w.responders.insert id (ResponderRun.started ok) }
      | .error _ => w
  | .finish id fin clock => { w with responders := HashMap.modify id (·.finish fin clock) w.responders }
  | .issue seed subject notBefore notAfter =>
    { w with issued := (P.edPublic seed, subject, notBefore, notAfter) :: w.issued }

def parties (w : World P) : Parties P where
  initiator := fun run => ∃ id, w.initiators.lookup id = some run
  responder := fun run => ∃ id, w.responders.lookup id = some run
  issued := fun issuer subject notBefore notAfter => (issuer, subject, notBefore, notAfter) ∈ w.issued

/-- Drawn keys are new; checked messages meet `IdealResponse` or `IdealFinish`. -/
def Allowed (honest : Bytes 32 → Prop) (w : World P) : Event → Prop
  | .start _ _ _ ephemeral _ => ∀ secret, ephemeral = some secret →
      (∀ run, w.parties.initiator run → P.dhPublic run.handshake.keyPair.secret ≠ P.dhPublic secret) ∧
      ∀ run random cookie mac1, w.parties.responder run →
        run.initiation ≠ .initiation (P.dhPublic secret) random cookie mac1
  | .finishForSession id response _ _ _ => ∀ run, w.initiators.lookup id = some run →
      w.parties.IdealResponse honest run.handshake response
  | .accept _ _ _ _ _ _ secret _ =>
    ∀ run, w.parties.responder run → P.dhPublic run.secret ≠ P.dhPublic secret
  | .finish id fin _ => ∀ run, w.responders.lookup id = some run →
      w.parties.IdealFinish honest run fin
  | _ => True

/-- An event completes initiator `id` only by a `finish_for_session`. -/
def InitiatorStep (e : Event) (id : Nat) (run run' : InitiatorRun P) : Prop :=
  run.Continues run' ∧ ∀ o, run'.progress = .done o → run' = run ∨ run'.handshake = run.handshake ∧
      ∃ sid keyPhase clock, e = .finishForSession id o.response sid keyPhase clock

/-- An event completes responder `id` only by a `finish`. -/
def ResponderStep (e : Event) (id : Nat) (run run' : ResponderRun P) : Prop :=
  run.Continues run' ∧ ∀ o, run'.progress = .done o →
    run' = run ∨ run'.handshake = run.handshake ∧ ∃ clock, e = .finish id o.finish clock

def StartedBy (e : Event) (id : Nat) (run : InitiatorRun P) : Prop :=
  run.progress = .running ∧ ∃ identity verifier random,
    e = .start id identity verifier (some run.handshake.keyPair.secret) random

def AcceptedBy (e : Event) (id : Nat) (run : ResponderRun P) : Prop :=
  run.progress = .running ∧ ∃ identity verifier initiation sid keyPhase random,
    e = .accept id identity verifier initiation sid keyPhase run.secret random

lemma InitiatorStep.refl (e : Event) (id : Nat) (run : InitiatorRun P) : InitiatorStep e id run run :=
  ⟨.refl run, fun _ _ => .inl rfl⟩

lemma ResponderStep.refl (e : Event) (id : Nat) (run : ResponderRun P) : ResponderStep e id run run :=
  ⟨.refl run, fun _ _ => .inl rfl⟩

lemma initiators_step (w : World P) (e : Event) :
    HashMap.Evolves (InitiatorStep e) (StartedBy e) w.initiators (step w e).initiators := by
  have same : (step w e).initiators = w.initiators →
      HashMap.Evolves (InitiatorStep e) (StartedBy e) w.initiators (step w e).initiators := by
    intro eq
    rw [eq]
    exact .refl 0 (InitiatorStep.refl e 0)
  cases e with
  | start id identity verifier ephemeral random =>
    by_cases used : id ∈ w.initiators
    · exact same (by simp only [step, if_pos used])
    · simp only [step, if_neg used] at same ⊢
      split at same
      · next hs message ok =>
        obtain ⟨drawn, _⟩ := InitiatorHandshake.start_ok ok
        exact .inr ⟨id, _, used, rfl, rfl, identity, verifier, random,
          congrArg (Event.start id identity verifier · random) drawn⟩
      · exact same rfl
  | attachCookie id cookie =>
    refine .inl ⟨id, (·.attachCookie cookie), rfl, ?_⟩
    intro run
    obtain same | ⟨running, keyPair, still⟩ := run.attachCookie_cases cookie
    · show InitiatorStep _ id run (run.attachCookie cookie)
      rw [same]
      exact .refl _ id run
    · exact ⟨⟨keyPair, fun stopped => absurd running stopped⟩, fun o done => by cases still.symm.trans done⟩
  | finishForSession id response sid keyPhase clock =>
    refine .inl ⟨id, (·.finishForSession response sid keyPhase clock), rfl, ?_⟩
    intro run
    obtain same | ⟨running, handshake, called⟩ := run.finishForSession_cases response sid keyPhase clock
    · show InitiatorStep _ id run (run.finishForSession response sid keyPhase clock)
      rw [same]
      exact .refl _ id run
    · refine ⟨⟨by rw [handshake], fun stopped => absurd running stopped⟩, ?_⟩
      exact fun o done => .inr ⟨handshake, sid, keyPhase, clock, by rw [called o done]⟩
  | accept id identity verifier initiation sid keyPhase secret random =>
    refine same ?_
    simp only [step]
    split
    · rfl
    · split <;> rfl
  | finish id fin clock => exact same rfl
  | issue seed subject notBefore notAfter => exact same rfl

lemma responders_step (w : World P) (e : Event) :
    HashMap.Evolves (ResponderStep e) (AcceptedBy e) w.responders (step w e).responders := by
  have same : (step w e).responders = w.responders →
      HashMap.Evolves (ResponderStep e) (AcceptedBy e) w.responders (step w e).responders := by
    intro eq
    rw [eq]
    exact .refl 0 (ResponderStep.refl e 0)
  cases e with
  | start id identity verifier ephemeral random =>
    refine same ?_
    simp only [step]
    split
    · rfl
    · split <;> rfl
  | attachCookie id cookie => exact same rfl
  | finishForSession id response sid keyPhase clock => exact same rfl
  | accept id identity verifier initiation sid keyPhase secret random =>
    by_cases used : id ∈ w.responders
    · exact same (by simp only [step, if_pos used])
    · simp only [step, if_neg used] at same ⊢
      split at same
      · exact .inr ⟨id, _, used, rfl, rfl, identity, verifier, initiation, sid, keyPhase, random, rfl⟩
      · exact same rfl
  | finish id fin clock =>
    refine .inl ⟨id, (·.finish fin clock), rfl, ?_⟩
    intro run
    obtain same | ⟨kept, handshake, called⟩ := run.finish_cases fin clock
    · show ResponderStep _ id run (run.finish fin clock)
      rw [same]
      exact .refl _ id run
    · exact ⟨kept, fun o done => .inr ⟨handshake, clock, by rw [called o done]⟩⟩
  | issue seed subject notBefore notAfter => exact same rfl

/-- Ephemeral keys are unique, completed instances have their partners. -/
structure Agreed (honest : Bytes 32 → Prop) (w : World P) : Prop where
  initiatorKey : ∀ {id id' run run'}, w.initiators.lookup id = some run →
    w.initiators.lookup id' = some run' →
    P.dhPublic run.handshake.keyPair.secret = P.dhPublic run'.handshake.keyPair.secret → id = id'
  responderKey : ∀ {id id' run run'}, w.responders.lookup id = some run →
    w.responders.lookup id' = some run' → P.dhPublic run.secret = P.dhPublic run'.secret → id = id'
  sent : ∀ {run peer o}, w.parties.responder run → w.parties.initiator peer →
    run.progress = .done o → Parties.Answers run peer →
    ∃ o', peer.progress = .done o' ∧ peer.handshake.initiation = run.initiation ∧
      o'.response = run.response ∧ o'.finish = o.finish
  initiator : ∀ {run o k}, w.parties.responder run → run.progress = .done o → o.remote = some k →
    honest k → ∃ peer o', w.parties.initiator peer ∧ P.edPublic peer.handshake.identity.seed = k ∧
      peer.progress = .done o' ∧ peer.handshake.initiation = run.initiation ∧
      o'.response = run.response ∧ o'.finish = o.finish
  responder : ∀ {run o k}, w.parties.initiator run → run.progress = .done o → o.remote = some k →
    honest k → ∃ peer, w.parties.responder peer ∧ P.edPublic peer.identity.seed = k ∧
      peer.initiation = run.handshake.initiation ∧ peer.response = o.response

lemma Agreed.empty (honest : Bytes 32 → Prop) : Agreed honest (World.empty : World P) := by
  have noInitiator : ∀ {id run}, (World.empty : World P).initiators.lookup id ≠ some run := by
    intro id run h
    cases h
  have noResponder : ∀ {id run}, (World.empty : World P).responders.lookup id ≠ some run := by
    intro id run h
    cases h
  exact
    { initiatorKey := fun h => absurd h noInitiator
      responderKey := fun h => absurd h noResponder
      sent := fun h => absurd h.choose_spec noResponder
      initiator := fun h => absurd h.choose_spec noResponder
      responder := fun h => absurd h.choose_spec noInitiator }

lemma Agreed.fresh {honest : Bytes 32 → Prop} {w : World P} (h : Agreed honest w) :
    w.parties.Fresh := by
  refine ⟨?_, ?_⟩
  · intro run run' found found' eq
    obtain ⟨id, found⟩ := found
    obtain ⟨id', found'⟩ := found'
    cases h.initiatorKey found found' eq
    exact Option.some.inj (found.symm.trans found')
  · intro run run' found found' eq
    obtain ⟨id, found⟩ := found
    obtain ⟨id', found'⟩ := found'
    cases h.responderKey found found' eq
    exact Option.some.inj (found.symm.trans found')

section
variable {honest : Bytes 32 → Prop} {w : World P} {e : Event}

/-- A drawn ephemeral key is new, so keys stay unique. -/
lemma initiatorKey_step (agreed : Agreed honest w) (allowed : Allowed honest w e) {id id' : Nat}
    {run run' : InitiatorRun P} (found : (step w e).initiators.lookup id = some run)
    (found' : (step w e).initiators.lookup id' = some run')
    (eq : P.dhPublic run.handshake.keyPair.secret = P.dhPublic run'.handshake.keyPair.secret) :
    id = id' := by
  refine (initiators_step w e).unique (InitiatorStep.refl e) ?_ ?_ ?_ agreed.initiatorKey found
    found' eq
  · intro id run run' kept
    rw [kept.1.keyPair]
  · intro id id' run old started foundOld
    obtain ⟨_, _, _, _, rfl⟩ := started
    exact (allowed _ rfl).1 old ⟨id', foundOld⟩
  · intro id id' run run' started started'
    obtain ⟨_, _, _, _, rfl⟩ := started
    obtain ⟨_, _, _, _, eq⟩ := started'
    exact (Event.start.inj eq).1

lemma responderKey_step (agreed : Agreed honest w) (allowed : Allowed honest w e) {id id' : Nat}
    {run run' : ResponderRun P} (found : (step w e).responders.lookup id = some run)
    (found' : (step w e).responders.lookup id' = some run')
    (eq : P.dhPublic run.secret = P.dhPublic run'.secret) : id = id' := by
  refine (responders_step w e).unique (ResponderStep.refl e) ?_ ?_ ?_ agreed.responderKey found
    found' eq
  · intro id run run' kept
    rw [kept.1.secret]
  · intro id id' run old started foundOld
    obtain ⟨_, _, _, _, _, _, _, rfl⟩ := started
    exact allowed old ⟨id', foundOld⟩
  · intro id id' run run' started started'
    obtain ⟨_, _, _, _, _, _, _, rfl⟩ := started
    obtain ⟨_, _, _, _, _, _, _, eq⟩ := started'
    exact (Event.accept.inj eq).1

lemma initiator_done_kept {run : InitiatorRun P} {o : InitiatorOutcome P}
    (h : w.parties.initiator run) (done : run.progress = .done o) (e : Event) :
    (step w e).parties.initiator run := by
  obtain ⟨id, found⟩ := h
  obtain ⟨run', found', kept, _⟩ := (initiators_step w e).kept (InitiatorStep.refl e) found
  have same := kept.stopped (by simp [done])
  rw [same] at found'
  exact ⟨id, found'⟩

lemma responder_kept {run : ResponderRun P} (h : w.parties.responder run) (e : Event) :
    ∃ run', (step w e).parties.responder run' ∧ run.Continues run' := by
  obtain ⟨id, found⟩ := h
  obtain ⟨run', found', kept, _⟩ := (responders_step w e).kept (ResponderStep.refl e) found
  exact ⟨run', ⟨id, found'⟩, kept⟩

/-- A completed initiator was so before, or the step completes it. -/
lemma initiator_done_step (allowed : Allowed honest w e) {run' : InitiatorRun P}
    {o : InitiatorOutcome P} (found : (step w e).parties.initiator run')
    (done : run'.progress = .done o) :
    w.parties.initiator run' ∨ ∃ run, w.parties.initiator run ∧ run'.handshake = run.handshake ∧
      w.parties.IdealResponse honest run.handshake o.response := by
  obtain ⟨id, found⟩ := found
  cases (initiators_step w e).of_lookup (InitiatorStep.refl e) found with
  | inl old =>
    obtain ⟨run, foundOld, _, completed⟩ := old
    cases completed o done with
    | inl same => exact .inl ⟨id, by rw [same, foundOld]⟩
    | inr called =>
      obtain ⟨handshake, _, _, _, rfl⟩ := called
      exact .inr ⟨run, ⟨id, foundOld⟩, handshake, allowed run foundOld⟩
  | inr started =>
    rw [started.2.1] at done
    cases done

lemma responder_done_step (allowed : Allowed honest w e) {run' : ResponderRun P}
    {o : ResponderOutcome P} (found : (step w e).parties.responder run')
    (done : run'.progress = .done o) :
    w.parties.responder run' ∨ ∃ run, w.parties.responder run ∧ run.Continues run' ∧
      run'.handshake = run.handshake ∧ w.parties.IdealFinish honest run o.finish ∧
      (step w e).initiators = w.initiators := by
  obtain ⟨id, found⟩ := found
  cases (responders_step w e).of_lookup (ResponderStep.refl e) found with
  | inl old =>
    obtain ⟨run, foundOld, kept, completed⟩ := old
    cases completed o done with
    | inl same => exact .inl ⟨id, by rw [same, foundOld]⟩
    | inr called =>
      obtain ⟨handshake, _, rfl⟩ := called
      exact .inr ⟨run, ⟨id, foundOld⟩, kept, handshake, allowed run foundOld, rfl⟩
  | inr started =>
    rw [started.2.1] at done
    cases done

lemma sent_step (ideal : P.Ideal) (agreed : Agreed honest w) (allowed : Allowed honest w e)
    {run : ResponderRun P} {peer : InitiatorRun P} {o : ResponderOutcome P}
    (hrun : (step w e).parties.responder run) (hpeer : (step w e).parties.initiator peer)
    (done : run.progress = .done o) (answers : Parties.Answers run peer) :
    ∃ o', peer.progress = .done o' ∧ peer.handshake.initiation = run.initiation ∧
      o'.response = run.response ∧ o'.finish = o.finish := by
  cases responder_done_step allowed hrun done with
  | inl old =>
    obtain ⟨id, found⟩ := hpeer
    cases (initiators_step w e).of_lookup (InitiatorStep.refl e) found with
    | inl oldPeer =>
      obtain ⟨peer', found', kept, _⟩ := oldPeer
      rw [Parties.Answers, kept.keyPair] at answers
      obtain ⟨o', done', sent⟩ := agreed.sent old ⟨id, found'⟩ done answers
      rw [kept.stopped (by simp [done'])]
      exact ⟨o', done', sent⟩
    | inr started =>
      -- The key was drawn after the initiation had been accepted.
      obtain ⟨_, _, _, _, _, rfl⟩ := started
      obtain ⟨random, cookie, mac1, eq⟩ := answers
      exact absurd eq ((allowed _ rfl).2 run random cookie mac1 old)
  | inr new =>
    obtain ⟨run', hrun', kept, handshake, assumed, same⟩ := new
    have ok := run.finished o done
    rw [handshake] at ok
    have answers' : Parties.Answers run' peer := by
      rw [Parties.Answers, ← kept.initiation]
      exact answers
    rw [kept.initiation, kept.response]
    obtain ⟨id, found⟩ := hpeer
    rw [same] at found
    exact Parties.sent_of_finished ideal agreed.fresh hrun' ⟨id, found⟩ answers' assumed ok

lemma initiator_step (ideal : P.Ideal) (agreed : Agreed honest w) (allowed : Allowed honest w e)
    {run : ResponderRun P} {o : ResponderOutcome P} {k : Bytes 32}
    (hrun : (step w e).parties.responder run) (done : run.progress = .done o)
    (remote : o.remote = some k) (hk : honest k) :
    ∃ peer o', (step w e).parties.initiator peer ∧ P.edPublic peer.handshake.identity.seed = k ∧
      peer.progress = .done o' ∧ peer.handshake.initiation = run.initiation ∧
      o'.response = run.response ∧ o'.finish = o.finish := by
  cases responder_done_step allowed hrun done with
  | inl old =>
    obtain ⟨peer, o', hpeer, key, done', sent⟩ := agreed.initiator old done remote hk
    exact ⟨peer, o', initiator_done_kept hpeer done' e, key, done', sent⟩
  | inr new =>
    obtain ⟨run', hrun', kept, handshake, assumed, _⟩ := new
    have ok := run.finished o done
    rw [handshake, remote] at ok
    rw [kept.initiation, kept.response]
    obtain ⟨peer, o', hpeer, key, done', sent⟩ :=
      Parties.initiator_of_finished ideal agreed.fresh hrun' hk assumed ok
    exact ⟨peer, o', initiator_done_kept hpeer done' e, key, done', sent⟩

lemma responder_step (ideal : P.Ideal) (agreed : Agreed honest w) (allowed : Allowed honest w e)
    {run : InitiatorRun P} {o : InitiatorOutcome P} {k : Bytes 32}
    (hrun : (step w e).parties.initiator run) (done : run.progress = .done o)
    (remote : o.remote = some k) (hk : honest k) :
    ∃ peer, (step w e).parties.responder peer ∧ P.edPublic peer.identity.seed = k ∧
      peer.initiation = run.handshake.initiation ∧ peer.response = o.response := by
  have before' : ∃ peer, w.parties.responder peer ∧ P.edPublic peer.identity.seed = k ∧
      peer.initiation = run.handshake.initiation ∧ peer.response = o.response := by
    cases initiator_done_step allowed hrun done with
    | inl old => exact agreed.responder old done remote hk
    | inr new =>
      obtain ⟨run', hrun', handshake, assumed⟩ := new
      have ok := run.finished o done
      rw [handshake, remote] at ok
      rw [handshake]
      exact Parties.responder_of_finished ideal agreed.fresh hrun' hk assumed ok
  obtain ⟨peer, hpeer, key, initiation, response⟩ := before'
  obtain ⟨peer', hpeer', kept⟩ := responder_kept hpeer e
  refine ⟨peer', hpeer', ?_, ?_, ?_⟩
  · rw [kept.identity, key]
  · rw [kept.initiation, initiation]
  · rw [kept.response, response]

lemma Agreed.step (ideal : P.Ideal) (agreed : Agreed honest w) (allowed : Allowed honest w e) :
    Agreed honest (step w e) where
  initiatorKey := initiatorKey_step agreed allowed
  responderKey := responderKey_step agreed allowed
  sent := sent_step ideal agreed allowed
  initiator := initiator_step ideal agreed allowed
  responder := responder_step ideal agreed allowed

/-- Worlds reached under the ideal assumptions meet the invariant. -/
lemma Agreed.of_run (ideal : P.Ideal) {events : List Event}
    (allowed : EachStep World.step (Allowed honest) (World.empty : World P) events) :
    Agreed honest (run World.step (World.empty : World P) events) :=
  run_invariant (Agreed.empty honest) (fun _ _ agreed ok => agreed.step ideal ok) allowed

end

/-- A responder that completed with an honest key was sent its finish by an initiator with that key,
for the same exchange; likewise for an initiator; and both ends hold the same id and mirrored keys.
-/
theorem agreement (ideal : P.Ideal) (honest : Bytes 32 → Prop) (events : List Event) (w : World P)
    (allowed : EachStep step (Allowed honest) (World.empty : World P) events)
    (reached : w = run step World.empty events) :
    (∀ run o k, w.parties.responder run → run.progress = .done o → o.remote = some k → honest k →
      ∃ peer o', w.parties.initiator peer ∧ P.edPublic peer.handshake.identity.seed = k ∧
        peer.progress = .done o' ∧ peer.handshake.initiation = run.initiation ∧
        o'.response = run.response ∧ o'.finish = o.finish) ∧
    (∀ run o k, w.parties.initiator run → run.progress = .done o → o.remote = some k → honest k →
      ∃ peer, w.parties.responder peer ∧ P.edPublic peer.identity.seed = k ∧
        peer.initiation = run.handshake.initiation ∧ peer.response = o.response) ∧
    ∀ run o peer o', w.parties.initiator run → run.progress = .done o →
      w.parties.responder peer → peer.progress = .done o' →
      run.handshake.initiation = peer.initiation → o.response = peer.response →
      o.session.sessionId = o'.session.sessionId ∧ o.session.keys.send = o'.session.keys.receive ∧
        o.session.keys.receive = o'.session.keys.send := by
  have agreed := Agreed.of_run ideal allowed
  rw [← reached] at agreed
  refine ⟨fun run o k => agreed.initiator, fun run o k => agreed.responder, ?_⟩
  intro run o peer o' hrun done hpeer done' initiation response
  obtain ⟨o'', done'', _, _, finish⟩ := agreed.sent hpeer hrun done' (.of_initiation initiation)
  rw [done] at done''
  cases done''
  exact Parties.mirrored_of_messages ideal done done' initiation response finish

def sampleBytes (x : UInt8) : Bytes 32 :=
  Bytes.ofList 32 [x]

def sampleStart : Event :=
  .start 0 (.pinnedKey (sampleBytes 1)) (.pinnedKey (sampleBytes 2)) (some (sampleBytes 3))
    (some (sampleBytes 4))

def sampleStarted : World transparent :=
  step empty sampleStart

def sampleInitiation : HandshakeMessage :=
  ((sampleStarted.initiators.lookup 0).map (·.handshake.initiation)).getD (.cookieReply (sampleBytes 0))

def sampleAccept : Event :=
  .accept 0 (.pinnedKey (sampleBytes 2)) (.pinnedKey (sampleBytes 1)) sampleInitiation SessionId.zero 0
    (sampleBytes 5) (sampleBytes 6)

def sampleAccepted : World transparent :=
  step sampleStarted sampleAccept

def sampleResponse : HandshakeMessage :=
  ((sampleAccepted.responders.lookup 0).map (·.response)).getD (.cookieReply (sampleBytes 0))

def sampleFinishForSession : Event :=
  .finishForSession 0 sampleResponse SessionId.zero 0 ⟨0, 0⟩

def sampleFinished : World transparent :=
  step sampleAccepted sampleFinishForSession

def sampleFinishMessage : HandshakeMessage :=
  ((sampleFinished.initiators.lookup 0).bind fun run =>
    run.progress.outcome.map (·.finish)).getD (.cookieReply (sampleBytes 0))

def sampleExchange : List Event :=
  [sampleStart, sampleAccept, sampleFinishForSession, .finish 0 sampleFinishMessage ⟨0, 0⟩]

lemma not_responder_of_keys {w : World P} (h : w.responders.keys = []) (run : ResponderRun P) :
    ¬ w.parties.responder run := by
  intro member
  obtain ⟨id, found⟩ := member
  have mem := AList.mem_keys.1 (HashMap.mem_iff_lookup.2 ⟨run, found⟩)
  rw [h] at mem
  cases mem

lemma allowed_sampleExchange (honest : Bytes 32 → Prop) :
    EachStep step (Allowed honest) (empty : World transparent) sampleExchange := by
  have own : ∀ k seed m, transparent.edVerify k m (transparent.edSign seed m) = true →
      k = transparent.edPublic seed := fun _ _ _ => transparent_verify_only
  simp only [sampleExchange, eachStep_cons]
  refine ⟨?_, ?_, ?_, ?_, eachStep_nil⟩
  · intro secret _
    refine ⟨fun run h => ?_, fun run _ _ _ h => ?_⟩
    · cases h.choose_spec
    · cases h.choose_spec
  · intro run h
    have none' : sampleStarted.responders.keys = [] := by decide +kernel
    exact absurd h (not_responder_of_keys none' run)
  · intro run found
    have started : (sampleAccepted.initiators.lookup 0).map (·.handshake.initiation) =
        some sampleInitiation := by decide +kernel
    have accepted : (sampleAccepted.responders.lookup 0).map
        (fun peer => (peer.identity, peer.initiation, peer.response)) =
          some (.pinnedKey (sampleBytes 2), sampleInitiation, sampleResponse) := by decide +kernel
    obtain ⟨run', found', initiation⟩ := Option.map_eq_some_iff.1 started
    obtain ⟨peer, foundPeer, eq⟩ := Option.map_eq_some_iff.1 accepted
    have same : run' = run := Option.some.inj (found'.symm.trans found)
    subst same
    obtain ⟨pinned, eq⟩ := Prod.mk.inj eq
    obtain ⟨initiation', response⟩ := Prod.mk.inj eq
    have hpeer : sampleAccepted.parties.responder peer := ⟨0, foundPeer⟩
    rw [← response]
    exact Parties.idealResponse_of_honest transparent_correct own honest hpeer pinned
      (initiation'.trans initiation.symm)
  · intro run found
    have finished : ((sampleFinished.initiators.lookup 0).bind fun peer =>
        peer.progress.outcome.map fun o =>
          (peer.handshake.identity, peer.handshake.initiation, o.response, o.finish)) =
        some (.pinnedKey (sampleBytes 1), sampleInitiation, sampleResponse, sampleFinishMessage) := by
      decide +kernel
    have accepted : (sampleFinished.responders.lookup 0).map
        (fun run => (run.initiation, run.response)) = some (sampleInitiation, sampleResponse) := by
      decide +kernel
    obtain ⟨peer, foundPeer, eq⟩ := Option.bind_eq_some_iff.1 finished
    obtain ⟨o, done, eq⟩ := Option.map_eq_some_iff.1 eq
    obtain ⟨pinned, eq⟩ := Prod.mk.inj eq
    obtain ⟨initiation, eq⟩ := Prod.mk.inj eq
    obtain ⟨response, finish⟩ := Prod.mk.inj eq
    obtain ⟨run', found', eq⟩ := Option.map_eq_some_iff.1 accepted
    have same : run' = run := Option.some.inj (found'.symm.trans found)
    subst same
    obtain ⟨initiation', response'⟩ := Prod.mk.inj eq
    have hpeer : sampleFinished.parties.initiator peer := ⟨0, foundPeer⟩
    rw [← finish]
    exact Parties.idealFinish_of_honest transparent_correct own honest hpeer
      (Progress.outcome_eq_some.1 done) pinned (initiation.trans initiation'.symm)
      (response.trans response'.symm)

/-- In the sample exchange both ends complete, with mirrored keys. -/
theorem agreement_sampleExchange :
    ∃ run o peer o', (Rvpn.run step (empty : World transparent) sampleExchange).parties.initiator run ∧
      run.progress = .done o ∧
      (Rvpn.run step (empty : World transparent) sampleExchange).parties.responder peer ∧
      peer.progress = .done o' ∧ o.session.sessionId = o'.session.sessionId ∧
      o.session.keys.send = o'.session.keys.receive ∧
      o.session.keys.receive = o'.session.keys.send := by
  have finished : ((Rvpn.run step (empty : World transparent) sampleExchange).initiators.lookup 0).bind
      (fun run => run.progress.outcome.map fun o => (run.handshake.initiation, o.response)) =
        some (sampleInitiation, sampleResponse) := by decide +kernel
  have accepted : ((Rvpn.run step (empty : World transparent) sampleExchange).responders.lookup 0).bind
      (fun peer => peer.progress.outcome.map fun _ => (peer.initiation, peer.response)) =
        some (sampleInitiation, sampleResponse) := by decide +kernel
  obtain ⟨run, found, eq⟩ := Option.bind_eq_some_iff.1 finished
  obtain ⟨o, done, eq⟩ := Option.map_eq_some_iff.1 eq
  obtain ⟨peer, found', eq'⟩ := Option.bind_eq_some_iff.1 accepted
  obtain ⟨o', done', eq'⟩ := Option.map_eq_some_iff.1 eq'
  have same := Prod.mk.inj (eq.trans eq'.symm)
  have done := Progress.outcome_eq_some.1 done
  have done' := Progress.outcome_eq_some.1 done'
  exact ⟨run, o, peer, o', ⟨0, found⟩, done, ⟨0, found'⟩, done',
    (agreement transparent_ideal (fun _ => True) sampleExchange _
      (allowed_sampleExchange fun _ => True) rfl).2.2 run o peer o' ⟨0, found⟩ done ⟨0, found'⟩ done'
      same.1 same.2⟩

/-- In certificate mode a client gets a session only for a valid certificate of the authority whose
key signed the exchange; if the key is honest, an instance with it responded. Nothing ties the key
to a server: whoever holds such a certificate is accepted as one. -/
theorem certified_response (ideal : P.Ideal) (correct : P.Correct) (honest : Bytes 32 → Prop)
    (events : List Event) (w : World P)
    (allowed : EachStep step (Allowed honest) (World.empty : World P) events)
    (reached : w = run step World.empty events) (id : Nat) (client : InitiatorRun P)
    (found : w.initiators.lookup id = some client) (ca : Bytes 32)
    (mode : client.handshake.verifier = .certificate ca) (trusted : honest ca) :
    (∀ response sid keyPhase clock finish session remote,
      Allowed honest w (.finishForSession id response sid keyPhase clock) →
      (client.handshake.finishForSession P response sid keyPhase clock = .ok (finish, session, remote) ∨
        InitiatorHandshake.finish P client.handshake response clock = .ok (finish, session, remote)) →
      ∃ certificate, remote = some certificate.subject ∧
        Parties.Certifies (P := P) client.handshake response certificate ∧
        (ca, certificate.subject, certificate.notBefore, certificate.notAfter) ∈ w.issued ∧
        certificate.notBefore.toNat ≤ clock.unix ∧ clock.unix ≤ certificate.notAfter.toNat ∧
        (honest certificate.subject → ∃ peer, w.parties.responder peer ∧
          P.edPublic peer.identity.seed = certificate.subject ∧
          peer.initiation = client.handshake.initiation ∧ peer.response = response)) ∧
    ∀ issuer seed notBefore notAfter clock secret shared verifier sid keyPhase random,
      P.edPublic issuer = ca → notBefore.toNat ≤ clock.unix → clock.unix ≤ notAfter.toNat →
      P.dh secret (P.dhPublic client.handshake.keyPair.secret) = some shared →
      ∃ responder response finish session, ResponderHandshake.acceptForSession P
          (.certificate seed (issueCertificate P issuer (P.edPublic seed) notBefore notAfter)) verifier
          client.handshake.initiation sid keyPhase (some secret) (some random) =
            .ok (responder, response) ∧
        client.handshake.finishForSession P response sid keyPhase clock =
          .ok (finish, session, some (P.edPublic seed)) := by
  have agreed := Agreed.of_run ideal allowed
  rw [← reached] at agreed
  refine ⟨?_, ?_⟩
  · intro response sid keyPhase clock finish session remote assumed accepted
    have assumed := assumed client found
    have called : ∃ sid keyPhase, client.handshake.finishForSession P response sid keyPhase clock =
        .ok (finish, session, remote) := by
      cases accepted with
      | inl ok => exact ⟨sid, keyPhase, ok⟩
      | inr ok =>
        obtain ⟨sid, ok⟩ := InitiatorHandshake.finish_ok ok
        exact ⟨sid, 0, ok⟩
    obtain ⟨sid, keyPhase, ok⟩ := called
    obtain ⟨certificate, rfl, certifies, issued, lo, hi⟩ :=
      Parties.certified_of_finished trusted mode assumed ok
    refine ⟨certificate, rfl, certifies, issued, lo, hi, ?_⟩
    intro hk
    exact Parties.responder_of_finished ideal agreed.fresh ⟨id, found⟩ hk assumed ok
  · intro issuer seed notBefore notAfter clock secret shared verifier sid keyPhase random isCa begun
      unexpired agree
    subst isCa
    exact certificate_accepted correct client.shape mode seed begun unexpired agree verifier sid keyPhase
      random

def sampleCertificate (subject : UInt8) : Certificate :=
  issueCertificate transparent (sampleBytes 9) (sampleBytes subject) 0 100

/-- The authority certifies the server (2) and two clients (1, 7); the first starts. -/
def certifiedStart : List Event :=
  [.issue (sampleBytes 9) (sampleBytes 2) 0 100, .issue (sampleBytes 9) (sampleBytes 1) 0 100,
    .issue (sampleBytes 9) (sampleBytes 7) 0 100,
    .start 0 (.certificate (sampleBytes 1) (sampleCertificate 1)) (.certificate (sampleBytes 9))
      (some (sampleBytes 3)) (some (sampleBytes 4))]

/-- The client has started; the server has not run at all. -/
def certifiedWorld : World transparent :=
  run step empty certifiedStart

def certifiedInitiation : HandshakeMessage :=
  ((certifiedWorld.initiators.lookup 0).map (·.handshake.initiation)).getD
    (.cookieReply (sampleBytes 0))

/-- The other client answers as a server, with its own certificate. -/
def impostorResponse : HandshakeMessage :=
  match ResponderHandshake.acceptForSession transparent
      (.certificate (sampleBytes 7) (sampleCertificate 7)) (.certificate (sampleBytes 9))
      certifiedInitiation SessionId.zero 0 (some (sampleBytes 8)) (some (sampleBytes 6)) with
  | .ok (_, response) => response
  | .error _ => .cookieReply (sampleBytes 0)

/-- The honest holders: authority, client and server. -/
def sampleHonest (k : Bytes 32) : Prop :=
  k ≠ sampleBytes 7

lemma allowed_certifiedStart :
    EachStep step (Allowed sampleHonest) (empty : World transparent) certifiedStart := by
  simp only [certifiedStart, eachStep_cons]
  refine ⟨trivial, trivial, trivial, ?_, eachStep_nil⟩
  intro secret _
  refine ⟨fun run h => ?_, fun run _ _ _ h => ?_⟩
  · cases h.choose_spec
  · cases h.choose_spec

lemma noResponder : certifiedWorld.responders.keys = [] := by
  decide +kernel

lemma allowed_impostorResponse : Allowed sampleHonest certifiedWorld
    (.finishForSession 0 impostorResponse SessionId.zero 0 ⟨50, 0⟩) := by
  intro run found
  have started : (certifiedWorld.initiators.lookup 0).map
      (fun run => (run.handshake.initiation, run.handshake.keyPair.secret)) =
        some (certifiedInitiation, sampleBytes 3) := by decide +kernel
  have initiators : certifiedWorld.initiators.keys = [0] := by decide +kernel
  obtain ⟨run', found', eq⟩ := Option.map_eq_some_iff.1 started
  have same : run' = run := Option.some.inj (found'.symm.trans found)
  subst same
  obtain ⟨initiation, secret⟩ := Prod.mk.inj eq
  have answer : ∃ h, ResponderHandshake.acceptForSession transparent
      (.certificate (sampleBytes 7) (sampleCertificate 7)) (.certificate (sampleBytes 9))
      run'.handshake.initiation SessionId.zero 0 (some (sampleBytes 8)) (some (sampleBytes 6)) =
        .ok (h, impostorResponse) := by
    rw [initiation]
    unfold impostorResponse
    cases eq : ResponderHandshake.acceptForSession transparent
      (.certificate (sampleBytes 7) (sampleCertificate 7)) (.certificate (sampleBytes 9))
      certifiedInitiation SessionId.zero 0 (some (sampleBytes 8)) (some (sampleBytes 6)) with
    | error e => cases eq
    | ok answer => exact ⟨answer.1, rfl⟩
  obtain ⟨h, answer⟩ := answer
  refine Parties.idealResponse_of_attacker transparent_correct (fun _ _ _ => transparent_verify_only)
    sampleHonest answer ?_ (fun honest => honest rfl) ?_
  · intro a drawn
    cases drawn with
    | @initiator run member =>
      obtain ⟨id, member⟩ := member
      have mem := AList.mem_keys.1 (HashMap.mem_iff_lookup.2 ⟨run, member⟩)
      rw [initiators, List.mem_singleton] at mem
      subst mem
      cases Option.some.inj (member.symm.trans found)
      rw [secret]
      decide
    | responder member => exact absurd member (not_responder_of_keys noResponder _)
  · exact .head _

lemma impostorResponse_accepted :
    ∃ client finish session, certifiedWorld.initiators.lookup 0 = some client ∧
      client.handshake.verifier = .certificate (sampleBytes 9) ∧
      client.handshake.finishForSession transparent impostorResponse SessionId.zero 0 ⟨50, 0⟩ =
        .ok (finish, session, some (sampleBytes 7)) := by
  have accepted : (certifiedWorld.initiators.lookup 0).map (fun client =>
      (client.handshake.verifier,
        (client.handshake.finishForSession transparent impostorResponse SessionId.zero 0
          ⟨50, 0⟩).toOption.map (·.2.2))) =
      some (.certificate (sampleBytes 9), some (some (sampleBytes 7))) := by decide +kernel
  obtain ⟨client, found, eq⟩ := Option.map_eq_some_iff.1 accepted
  obtain ⟨mode, eq⟩ := Prod.mk.inj eq
  obtain ⟨⟨finish, session, remote⟩, ok, rfl⟩ := Option.map_eq_some_iff.1 eq
  refine ⟨client, finish, session, found, mode, ?_⟩
  cases out : client.handshake.finishForSession transparent impostorResponse SessionId.zero 0
      ⟨50, 0⟩ with
  | error e =>
    rw [out] at ok
    cases ok
  | ok result =>
    rw [out] at ok
    cases ok
    rfl

/-- A client accepts another client's response, with its own certificate. -/
theorem impostor_accepted_as_server :
    EachStep step (Allowed sampleHonest) (empty : World transparent) (certifiedStart ++
      [.finishForSession 0 impostorResponse SessionId.zero 0 ⟨50, 0⟩]) ∧
    ¬ sampleHonest (sampleBytes 7) ∧ sampleBytes 7 ≠ sampleBytes 2 ∧
    (∀ peer, ¬ certifiedWorld.parties.responder peer) ∧
    ∃ client finish session, certifiedWorld.initiators.lookup 0 = some client ∧
      client.handshake.verifier = .certificate (sampleBytes 9) ∧
      client.handshake.finishForSession transparent impostorResponse SessionId.zero 0 ⟨50, 0⟩ =
        .ok (finish, session, some (sampleBytes 7)) := by
  refine ⟨?_, fun honest => honest rfl, by decide, not_responder_of_keys noResponder,
    impostorResponse_accepted⟩
  refine eachStep_append.2 ⟨allowed_certifiedStart, ?_⟩
  rw [eachStep_cons]
  exact ⟨allowed_impostorResponse, eachStep_nil⟩

/-- The other client's response carries a valid certificate and signature. -/
theorem certified_response_impostor :
    ∃ client certificate, certifiedWorld.initiators.lookup 0 = some client ∧
      Parties.Certifies (P := transparent) client.handshake impostorResponse certificate ∧
      (sampleBytes 9, certificate.subject, certificate.notBefore, certificate.notAfter) ∈
        certifiedWorld.issued ∧ certificate.notBefore.toNat ≤ 50 ∧ 50 ≤ certificate.notAfter.toNat := by
  obtain ⟨client, finish, session, found, mode, ok⟩ := impostorResponse_accepted
  have honestCa : sampleHonest (sampleBytes 9) := by
    show sampleBytes 9 ≠ sampleBytes 7
    decide
  obtain ⟨certificate, _, certifies, issued, lo, hi, _⟩ :=
    (certified_response transparent_ideal transparent_correct sampleHonest certifiedStart certifiedWorld
      allowed_certifiedStart rfl 0 client found (sampleBytes 9) mode honestCa).1 impostorResponse
      SessionId.zero 0 ⟨50, 0⟩ finish session _ allowed_impostorResponse (.inl ok)
  exact ⟨client, certificate, found, certifies, issued, lo, hi⟩

end World
end Rvpn.Protocol
