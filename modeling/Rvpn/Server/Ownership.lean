import Rvpn.Lib.Transparent
import Rvpn.Server.Steps

/-!
# Who a session belongs to

A session is established by the finish of an initial handshake, which proves an identity key. Rekeys
should prove the same key again, and never one that the certificate authority revoked, but
`finish_pending` ignores the key that a rekey proves. For a pinned key this does no harm; for a session
that a certificate established, the verifier accepts every certificate of the authority. `rekeyLaw_iff`
gives the exact runs in which the law holds.
-/

namespace Rvpn.Server
open Config Crypto Protocol Routing

variable {P : Primitives}

/-- The sessions installed, newest first, with their authorities. -/
abbrev History := List (Installed × Option CertificateAuthorityConfig)

/-- A server and what it installed so far. -/
structure Trace (P : Primitives) where
  server : ServerLoop P
  history : History

def installs (out : List (Output P)) : List Installed :=
  out.filterMap fun
    | .installed record => some record
    | _ => none

/-- The finish that established a session: its last initial handshake. -/
def History.establishing (history : History) (id : SessionId) : Option Installed :=
  (history.find? fun entry => decide (entry.1.sessionId = id ∧ entry.1.kind = .handshake)).map Prod.fst

def Revoked (ca : Option CertificateAuthorityConfig) (key : Bytes 32) : Prop :=
  ∃ authority, ca = some authority ∧ authority.isRevoked (hexEncode key.toList) = true

/-- What a rekey has to prove, given the history before it. -/
def History.Proves (older : History) (ca : Option CertificateAuthorityConfig) (record : Installed) :
    Prop :=
  ∃ first key, older.establishing record.sessionId = some first ∧ first.remote = some key ∧
    record.remote = some key ∧ ¬ Revoked ca key

def History.Lawful (history : History) : Prop :=
  ∀ newer record ca (older : History), history = newer ++ (record, ca) :: older →
    record.kind = .rekey → older.Proves ca record

namespace Trace

/-- One round. A round installs at most one session. -/
def step (setup : Setup) (t : Trace P) (event : Event × Env) : Trace P where
  server := (t.server.step setup event).1
  history := (installs (t.server.step setup event).2).map (·, t.server.certificateAuthority) ++
    t.history

/-- Every rekey proved the key that established its session, unrevoked. -/
def RekeyLaw (t : Trace P) : Prop :=
  t.history.Lawful

/-- A rekey proves the unrevoked pinned key, or the establishing subject. -/
def Allowed (setup : Setup) (t : Trace P) (event : Event × Env) : Prop :=
  ∀ record ∈ installs (t.server.step setup event).2, record.kind = .rekey →
    match record.identity.auth with
    | .pinnedKey _ key => ¬ Revoked t.server.certificateAuthority key
    | .certificate _ _ _ => t.history.Proves t.server.certificateAuthority record

/-- The session was established, for a pinned peer with its pinned key. -/
def Owner (history : History) (id : SessionId) (identity : PeerIdentity) : Prop :=
  ∃ first, history.establishing id = some first ∧
    ∀ seed key, identity.auth = .pinnedKey seed key → first.remote = some key

/-- The verifier of a pending handshake is that of the identity it is for. -/
def Verifies (state : PendingHandshake P) (identity : PeerIdentity) : Prop :=
  state.source = .known identity ∧ state.handshake.verifier = identity.auth.verifier

/-- Active sessions and those of pending rekeys have an owner. -/
structure Owned (t : Trace P) : Prop where
  active : ∀ id peer, t.server.active.lookup id = some peer →
    peer.session.sessionId = id ∧ Owner t.history id peer.identity
  pending : ∀ id state, t.server.pending.entries.lookup id = some state →
    state.handshake.sessionId = id ∧
      ((state.kind = .handshake ∧ ∀ identity, state.source = .known identity →
          state.handshake.verifier = identity.auth.verifier) ∨
        (state.kind = .rekey ∧ ∃ identity, Verifies state identity ∧ Owner t.history id identity))

end Trace

section
variable {ca : Option CertificateAuthorityConfig} {record : Installed} {history : History}

lemma establishing_cons (id : SessionId) : History.establishing ((record, ca) :: history) id =
      if record.sessionId = id ∧ record.kind = .handshake then some record
      else history.establishing id := by
  unfold History.establishing
  rw [List.find?_cons]
  by_cases first : record.sessionId = id ∧ record.kind = .handshake
  · simp [first]
  · rw [if_neg first]
    simp [first]

/-- A rekey keeps the owners; an initial handshake changes its own. -/
lemma Trace.Owner.cons {id : SessionId} {identity : PeerIdentity} (h : Owner history id identity)
    (other : ¬ (record.sessionId = id ∧ record.kind = .handshake)) :
    Owner ((record, ca) :: history) id identity := by
  obtain ⟨first, established, pinned⟩ := h
  refine ⟨first, ?_, pinned⟩
  rw [establishing_cons, if_neg other, established]

lemma Output.CalmFor.not_installed {active : ActivePeers P} :
    ¬ (Output.installed record : Output P).CalmFor active := by
  intro calm
  cases calm with
  | inl quiet => exact quiet
  | inr device =>
    cases device with
    | inl tun =>
      obtain ⟨packet, eq⟩ := tun
      cases eq
    | inr tap =>
      obtain ⟨frame, eq⟩ := tap
      cases eq

end

lemma installs_of_calm {active : ActivePeers P} {out : List (Output P)}
    (calm : ∀ o ∈ out, o.CalmFor active) : installs out = [] := by
  refine List.filterMap_eq_nil_iff.2 fun o mem => ?_
  cases o with
  | installed record => exact absurd (calm _ mem) Output.CalmFor.not_installed
  | _ => rfl

namespace Trace
variable (setup : Setup) (t : Trace P)

lemma step_cases (event : Event × Env) :
    (Derives t.server.active (t.step setup event).server.active ∧
        installs (t.server.step setup event).2 = [] ∧ (t.step setup event).history = t.history) ∨
      ∃ peer packet state session remote identity,
        event.1.Arrives P setup peer packet ∧ packet.header.sequence = 1 ∧
        Completes setup.parser t.server.pending peer packet event.2.clock state session remote
          identity ∧
        (t.step setup event).server.pending = t.server.pending.remove packet.header.sessionId ∧
        Derives (install t.server.active identity session peer setup.rekeyGracePeriod
          setup.rxRateBytesPerSec event.2.clock.instant).1 (t.step setup event).server.active ∧
        installs (t.server.step setup event).2 = [state.record session remote identity] ∧
        (t.step setup event).history =
          (state.record session remote identity, t.server.certificateAuthority) :: t.history := by
  obtain calm | ⟨peer, packet, state, session, remote, identity, arrives, first, completes, pending,
    out, eq, calm⟩ := t.server.step_active setup event
  · have none := installs_of_calm calm.outputs
    refine .inl ⟨calm.table, none, ?_⟩
    simp only [step, none, List.map_nil, List.nil_append]
  · have one : installs (t.server.step setup event).2 = [state.record session remote identity] := by
      rw [eq]
      exact congrArg (_ :: ·) (installs_of_calm calm.outputs)
    refine .inr ⟨peer, packet, state, session, remote, identity, arrives, first, completes, pending,
      calm.table, one, ?_⟩
    simp only [step, one, List.map_cons, List.map_nil, List.singleton_append]

variable {setup t}

variable {state : PendingHandshake P} {remote : Option (Bytes 32)} {identity : PeerIdentity}
  {session : ProtectedSession P} {peer : SocketAddr} {packet : Packet} {clock : Clock}
  {seed key : Bytes 32}

lemma Owned.sessionId_of_completes (h : t.Owned)
    (completes : Completes setup.parser t.server.pending peer packet clock
      state session remote identity) : session.sessionId = packet.header.sessionId := by
  rw [completes.sessionId]
  exact (h.pending _ state completes.found).1

/-- For a pinned verifier the proved key is the pinned one. -/
lemma remote_of_completes {parser : AddressParser} {pending : PendingHandshakes P}
    (completes : Completes parser pending peer packet clock state session remote identity) :
    ∃ key, remote = some key ∧
      ∀ expected, state.handshake.verifier = .pinnedKey expected → key = expected := by
  obtain ⟨message, _, finished⟩ := completes.finish
  obtain ⟨_, _, _, _, _, _, _, _, _, verified, _, _⟩ := ResponderHandshake.finish_ok finished
  obtain ⟨key, eq, _, trusted⟩ := verifyProof_ok verified
  refine ⟨key, eq, ?_⟩
  intro expected pinned
  rw [pinned] at trusted
  exact trusted

/-- Whom the authority admits is not pinned, so the pinned are configured. -/
lemma known_of_pinned {parser : AddressParser} {source : PendingSource}
    (finished : finishedIdentity parser source remote = some identity)
    (pinned : identity.auth = .pinnedKey seed key) : source = .known identity := by
  unfold finishedIdentity at finished
  split at finished
  · cases finished
    rfl
  · next ca =>
    split at finished
    · cases finished
    · simp only at finished
      split at finished
      · cases finished
      · split at finished
        · cases finished
        · cases finished
        · split at finished
          · cases finished
          · next auth usable =>
            cases finished
            obtain ⟨_, _, usable⟩ := except_bind_ok.1 usable
            obtain ⟨_, _, usable⟩ := except_bind_ok.1 usable
            obtain ⟨_, _, usable⟩ := except_bind_ok.1 usable
            cases usable
            cases pinned

lemma verifier_of_pinned {auth : AuthConfig} (pinned : auth = .pinnedKey seed key) :
    auth.verifier = .pinnedKey key := by
  rw [pinned]
  rfl

lemma Owned.of_started (h : t.Owned) {env : Env} {id : SessionId}
    (started : Started t.server env id state) : state.handshake.sessionId = id ∧
      ((state.kind = .handshake ∧ ∀ identity, state.source = .known identity →
          state.handshake.verifier = identity.auth.verifier) ∨
        (state.kind = .rekey ∧ ∃ identity, Verifies state identity ∧ Owner t.history id identity)) := by
  cases started with
  | known identity n initiation response configured kind source drawn accepted =>
    refine ⟨accepted.handshake.1, .inl ⟨kind, ?_⟩⟩
    intro other same
    rw [source] at same
    cases same
    exact accepted.handshake.2
  | authority ca auth n initiation response configured kind source usable drawn accepted =>
    refine ⟨accepted.handshake.1, .inl ⟨kind, ?_⟩⟩
    intro other same
    rw [source] at same
    cases same
  | rekey key current initiation response active same kind source room accepted =>
    obtain ⟨own, owner⟩ := h.active key current active
    rw [own] at same
    subst same
    obtain ⟨sessionId, verifier⟩ := accepted.handshake
    exact ⟨sessionId, .inr ⟨kind, current.identity, ⟨source, verifier⟩, owner⟩⟩

lemma Owned.pending_step (h : t.Owned) {event : Event × Env} {id : SessionId}
    (found : (t.step setup event).server.pending.entries.lookup id = some state)
    (kept : ∀ identity, Owner t.history id identity →
      Owner (t.step setup event).history id identity) :
    state.handshake.sessionId = id ∧
      ((state.kind = .handshake ∧ ∀ identity, state.source = .known identity →
          state.handshake.verifier = identity.auth.verifier) ∨
        (state.kind = .rekey ∧ ∃ identity, Verifies state identity ∧
          Owner (t.step setup event).history id identity)) := by
  have before : state.handshake.sessionId = id ∧
      ((state.kind = .handshake ∧ ∀ identity, state.source = .known identity →
          state.handshake.verifier = identity.auth.verifier) ∨
        (state.kind = .rekey ∧ ∃ identity, Verifies state identity ∧ Owner t.history id identity)) := by
    obtain ⟨old, foundOld, attempts, rfl⟩ | started := t.server.step_pending setup found
    · exact h.pending id old foundOld
    · exact h.of_started started
  refine ⟨before.1, before.2.imp_right ?_⟩
  intro rekey
  obtain ⟨kind, identity, verifies, owner⟩ := rekey
  exact ⟨kind, identity, verifies, kept identity owner⟩

/-- A completed rekey has the session's identity and its verifier. -/
lemma Owned.rekey_of_completes (h : t.Owned)
    (completes : Completes setup.parser t.server.pending peer packet clock
      state session remote identity) (kind : state.kind = .rekey) :
    Verifies state identity ∧ Owner t.history session.sessionId identity := by
  obtain ⟨_, initial | ⟨_, identity', verifies, owner⟩⟩ := h.pending _ state completes.found
  · rw [kind] at initial
    cases initial.1
  · have finished := completes.identity
    rw [verifies.1] at finished
    obtain rfl := Option.some.inj finished
    rw [h.sessionId_of_completes completes]
    exact ⟨verifies, owner⟩

lemma Owned.owner_of_completes (h : t.Owned)
    (completes : Completes setup.parser t.server.pending peer packet clock
      state session remote identity) (ca : Option CertificateAuthorityConfig) :
    Owner ((state.record session remote identity, ca) :: t.history) session.sessionId identity := by
  obtain ⟨_, ⟨kind, verifier⟩ | ⟨kind, _⟩⟩ := h.pending _ state completes.found
  · refine ⟨state.record session remote identity, ?_, ?_⟩
    · rw [establishing_cons, if_pos ⟨rfl, kind⟩]
    · intro seed key pinned
      obtain ⟨proved, eq, only⟩ := remote_of_completes completes
      have known := verifier identity (known_of_pinned completes.identity pinned)
      rw [verifier_of_pinned pinned] at known
      rw [← only key known, ← eq]
      rfl
  · refine (h.rekey_of_completes completes kind).2.cons fun initial => ?_
    have initial : state.kind = .handshake := initial.2
    rw [kind] at initial
    cases initial

lemma Owned.step (h : t.Owned) (event : Event × Env) : (t.step setup event).Owned := by
  obtain ⟨derives, _, history⟩ | ⟨peer, packet, state, session, remote, identity, _, _, completes,
    pending, derives, _, history⟩ := t.step_cases setup event
  · refine ⟨?_, ?_⟩
    · intro id peer' found
      obtain ⟨peer, foundOld, keeps⟩ := derives id peer' found
      rw [history, keeps.sessionId, keeps.identity]
      exact h.active id peer foundOld
    · intro id state found
      exact h.pending_step found fun identity owner => by rwa [history]
  · have own := h.sessionId_of_completes completes
    refine ⟨?_, ?_⟩
    · intro id peer' found
      obtain ⟨kept, foundKept, keeps⟩ := derives id peer' found
      rw [history, keeps.sessionId, keeps.identity]
      obtain ⟨rfl, same, sessionId, _⟩ | ⟨other, foundOld⟩ := lookup_install foundKept
      · rw [same]
        exact ⟨sessionId, h.owner_of_completes completes _⟩
      · obtain ⟨sessionId, owner⟩ := h.active id kept foundOld
        exact ⟨sessionId, owner.cons fun initial => other initial.1.symm⟩
    · intro id state' found
      have found' := found
      rw [pending] at found'
      obtain ⟨other, _⟩ := lookup_pending_remove found'
      refine h.pending_step found fun identity' owner => ?_
      rw [history]
      refine owner.cons fun initial => other ?_
      rw [← own]
      exact initial.1.symm

/-- A pinned peer's rekey proves what it has to iff its key is not revoked. -/
lemma Owned.proves_pinned (h : t.Owned)
    (completes : Completes setup.parser t.server.pending peer packet clock
      state session remote identity) (kind : state.kind = .rekey)
    (pinned : identity.auth = .pinnedKey seed key) (ca : Option CertificateAuthorityConfig) :
    t.history.Proves ca (state.record session remote identity) ↔ ¬ Revoked ca key := by
  obtain ⟨verifies, first, established, own⟩ := h.rekey_of_completes completes kind
  obtain ⟨proved, eq, only⟩ := remote_of_completes completes
  have same : proved = key := only key (verifies.2.trans (verifier_of_pinned pinned))
  subst same
  refine ⟨?_, ?_⟩
  · intro proves
    obtain ⟨_, key', _, _, remote', fresh⟩ := proves
    have remote' : remote = some key' := remote'
    rw [eq] at remote'
    cases remote'
    exact fresh
  · intro fresh
    exact ⟨first, proved, established, own seed proved pinned, eq, fresh⟩

end Trace

lemma History.lawful_cons {history : History} {record : Installed}
    {ca : Option CertificateAuthorityConfig} : History.Lawful ((record, ca) :: history) ↔
      (record.kind = .rekey → history.Proves ca record) ∧ history.Lawful := by
  refine ⟨?_, ?_⟩
  · intro law
    refine ⟨law [] record ca history rfl, ?_⟩
    intro newer record' ca' older eq
    exact law ((record, ca) :: newer) record' ca' older (by rw [eq]; rfl)
  · intro law newer record' ca' older eq
    cases newer with
    | nil =>
      cases eq
      exact law.1
    | cons first newer =>
      cases eq
      exact law.2 newer record' ca' older rfl

namespace Trace
variable {setup : Setup} {t : Trace P}

/-- A round from a state with the law keeps it exactly if it is allowed. -/
lemma rekeyLaw_step (h : t.Owned) (law : t.RekeyLaw) (event : Event × Env) :
    (t.step setup event).RekeyLaw ↔ t.Allowed setup event := by
  unfold RekeyLaw at law ⊢
  unfold Allowed
  obtain ⟨_, noRecord, history⟩ | ⟨peer, packet, state, session, remote, identity, _, _, completes,
    _, _, oneRecord, history⟩ := t.step_cases setup event
  · rw [noRecord, history]
    exact ⟨fun _ record mem => absurd mem List.not_mem_nil, fun _ => law⟩
  · rw [oneRecord, history, History.lawful_cons, List.forall_mem_singleton, and_iff_left law]
    refine forall_congr' fun kind => ?_
    show History.Proves _ _ _ ↔ match identity.auth with
      | .pinnedKey _ key => _
      | .certificate _ _ _ => _
    cases auth : identity.auth with
    | certificate seed certificate ca => exact Iff.rfl
    | pinnedKey seed key => exact h.proves_pinned completes kind auth _

def start (P : Primitives) (config : ServerConfig) (identities : List PeerIdentity)
    (ca : Option CertificateAuthorityConfig) : Trace P where
  server := ServerLoop.start P config identities ca
  history := []

/-- The law holds in every state of a run exactly if each round is allowed. -/
theorem rekeyLaw_iff (setup : Setup) (config : ServerConfig) (identities : List PeerIdentity)
    (ca : Option CertificateAuthorityConfig) (events : List (Event × Env)) :
    Always (step setup) RekeyLaw (start P config identities ca) events ↔
      EachStep (step setup) (Allowed setup) (start P config identities ca) events := by
  have owned : (start P config identities ca).Owned := by
    refine ⟨?_, ?_⟩
    · intro id peer found
      cases found
    · intro id state found
      cases found
  have lawful : (start P config identities ca).RekeyLaw := by
    intro newer record ca' older eq
    cases newer with
    | nil => cases eq
    | cons first newer => cases eq
  exact always_iff_eachStep owned lawful (fun t event h => h.step event)
    fun t event h law => rekeyLaw_step h law event

/-- Only pending rekeys of pinned peers with unrevoked keys are finished. -/
def PinnedRekey (setup : Setup) (t : Trace P) (event : Event × Env) : Prop :=
  ∀ peer packet state, event.1.Arrives P setup peer packet → packet.header.sequence = 1 →
    t.server.pending.entries.lookup packet.header.sessionId = some state → state.kind = .rekey →
    ∃ identity seed key, state.source = .known identity ∧ identity.auth = .pinnedKey seed key ∧
      ¬ Revoked t.server.certificateAuthority key

lemma PinnedRekey.allowed {event : Event × Env} (pinned : t.PinnedRekey setup event) :
    t.Allowed setup event := by
  unfold Allowed
  obtain ⟨_, noRecord, _⟩ | ⟨peer, packet, state, session, remote, identity, arrives, first,
    completes, _, _, oneRecord, _⟩ := t.step_cases setup event
  · rw [noRecord]
    exact fun record mem => absurd mem List.not_mem_nil
  · rw [oneRecord, List.forall_mem_singleton]
    intro kind
    obtain ⟨identity', seed, key, source, auth, fresh⟩ :=
      pinned peer packet state arrives first completes.found kind
    have same := completes.identity
    rw [source] at same
    obtain rfl := Option.some.inj same
    show match identity'.auth with
      | .pinnedKey _ key => ¬ Revoked t.server.certificateAuthority key
      | .certificate _ _ _ => _
    rw [auth]
    exact fresh

/-- If only pinned peers with unrevoked keys rekey, the law holds. -/
theorem rekeyLaw_of_pinned (setup : Setup) (config : ServerConfig) (identities : List PeerIdentity)
    (ca : Option CertificateAuthorityConfig) (events : List (Event × Env))
    (pinned : EachStep (step setup) (PinnedRekey setup) (start P config identities ca) events) :
    Always (step setup) RekeyLaw (start P config identities ca) events :=
  (rekeyLaw_iff setup config identities ca events).2 (pinned.mono fun _ _ => PinnedRekey.allowed)

def drawnId : SessionId :=
  ⟨Bytes.ofList 16 [9]⟩

def certifiedEnv : Env :=
  { sampleEnv with draw := fun _ => ⟨some drawnId.bytes, some (keyOf 10), some (keyOf 11)⟩ }

def fromClient (kind : PacketKind) (sequence : UInt64) (id : SessionId) (message : HandshakeMessage) :
    Event × Env :=
  (.datagram clientEndpoint
    (Packet.encode ⟨{ kind := kind, keyPhase := 0, sequence := sequence, sessionId := id },
      message.encode⟩), certifiedEnv)

section PinnedPeer
open Primitives

def pinnedPeer : PeerIdentity where
  name := "peer"
  allowedIps := [hostNet 2]
  auth := .pinnedKey (keyOf 8) (keyOf 1)

def pinnedStart : Trace transparent :=
  start transparent { bind := { ip := .v4 (Bytes.ofList 4 [192, 0, 2, 1]), port := 51820 } } [pinnedPeer]
    none

def pinnedClient (ephemeral : UInt8) (cookie : Option (Bytes 32)) : InitiatorHandshake where
  identity := .pinnedKey (keyOf 1)
  verifier := .pinnedKey (keyOf 8)
  keyPair := ⟨keyOf ephemeral⟩
  initiation := .initiation (keyOf ephemeral) (keyOf 1) cookie
    (HandshakeMessage.computeMac1 transparent (AuthVerifier.mac1Key transparent (.pinnedKey (keyOf 8)))
      (keyOf ephemeral) (keyOf 1) cookie)

def pinnedOutcome (client : InitiatorHandshake) (keyPhase : UInt32) :
    Option (HandshakeMessage × ProtectedSession transparent) :=
  match ResponderHandshake.acceptForSession transparent (.pinnedKey (keyOf 8)) (.pinnedKey (keyOf 1))
      client.initiation drawnId keyPhase (some (keyOf 10)) (some (keyOf 11)) with
  | .ok (_, response) =>
    (client.finishForSession transparent response drawnId keyPhase ⟨0, 0⟩).toOption.map
      fun outcome => (outcome.1, outcome.2.1)
  | .error _ => none

def pinnedFinish (client : InitiatorHandshake) (keyPhase : UInt32) : HandshakeMessage :=
  ((pinnedOutcome client keyPhase).map Prod.fst).getD (.cookieReply (Bytes.zero 32))

def pinnedFirst : InitiatorHandshake :=
  pinnedClient 3 (some ((deviceSetup (none, none)).cookieKey.mint transparent clientEndpoint (keyOf 3)
    (keyOf 1) 0))

def pinnedSecond : InitiatorHandshake :=
  pinnedClient 4 none

def pinnedRun : List (Event × Env) :=
  [fromClient .handshake 0 SessionId.zero pinnedFirst.initiation,
    fromClient .handshake 1 drawnId (pinnedFinish pinnedFirst 0),
    fromClient .rekey 0 drawnId pinnedSecond.initiation,
    fromClient .rekey 1 drawnId (pinnedFinish pinnedSecond 1)]

lemma pinnedRun_sources : ∀ n ∈ List.range 4,
    (run (step (deviceSetup (none, none))) pinnedStart (pinnedRun.take n)).server.certificateAuthority =
        none ∧
      ∀ source ∈ (HashMap.values (run (step (deviceSetup (none, none))) pinnedStart
        (pinnedRun.take n)).server.pending.entries).map (·.source), source = .known pinnedPeer := by
  decide +kernel

/-- The pinned peer rekeys its session with the key that established it. -/
theorem rekeyLaw_of_pinned_peer :
    (run (step (deviceSetup (none, none))) pinnedStart pinnedRun).history.map (fun entry =>
        (entry.1.sessionId, entry.1.kind, entry.1.remote)) =
      [(drawnId, .rekey, some (keyOf 1)), (drawnId, .handshake, some (keyOf 1))] ∧
      Always (step (deviceSetup (none, none))) RekeyLaw pinnedStart pinnedRun := by
  refine ⟨by decide +kernel, ?_⟩
  apply rekeyLaw_of_pinned
  intro before event later eq peer packet state _ _ found _
  have taken : pinnedRun.take before.length = before := by rw [eq, List.take_left]
  have short : before.length < 4 := by
    have length : pinnedRun.length = 4 := rfl
    rw [eq, List.length_append, List.length_cons] at length
    omega
  obtain ⟨authority, sources⟩ := pinnedRun_sources before.length (List.mem_range.2 short)
  rw [taken] at authority sources
  refine ⟨pinnedPeer, keyOf 8, keyOf 1, ?_, rfl, ?_⟩
  · exact sources _ (List.mem_map_of_mem (HashMap.mem_values.2 ⟨_, found⟩))
  · intro revoked
    obtain ⟨ca, configured, _⟩ := revoked
    cases authority.symm.trans configured

end PinnedPeer

section RevokedHolder
open Primitives

def certificateOf (x : UInt8) : Certificate :=
  issueCertificate transparent (keyOf 7) (keyOf x) 0 1000

def revokingAuthority : CertificateAuthorityConfig where
  name := "ca"
  caPublicKey := hexEncode (keyOf 7).toList
  localIdentitySeed := hexEncode (keyOf 8).toList
  localCertificate := hexEncode (certificateOf 8).encode.toList
  defaultAllowedIps := ["10.0.0.2/32"]
  revokedSubjects := [hexEncode (keyOf 2).toList]

def revokingConfig : ServerConfig where
  bind := { ip := .v4 (Bytes.ofList 4 [192, 0, 2, 1]), port := 51820 }
  certificateAuthority := some revokingAuthority

def certifiedSetup : Setup :=
  { deviceSetup (none, none) with
    parser := ⟨fun _ => some (hostNet 2), fun _ => none⟩ }

/-- A client with a certificate for key `x`. -/
def certifiedClient (x ephemeral : UInt8) (cookie : Option (Bytes 32)) : InitiatorHandshake where
  identity := .certificate (keyOf x) (certificateOf x)
  verifier := .certificate (keyOf 7)
  keyPair := ⟨keyOf ephemeral⟩
  initiation := .initiation (keyOf ephemeral) (keyOf x) cookie
    (HandshakeMessage.computeMac1 transparent (AuthVerifier.mac1Key transparent (.certificate (keyOf 7)))
      (keyOf ephemeral) (keyOf x) cookie)

def responseTo (client : InitiatorHandshake) (keyPhase : UInt32) : HandshakeMessage :=
  match ResponderHandshake.acceptForSession transparent (.certificate (keyOf 8) (certificateOf 8))
      (.certificate (keyOf 7)) client.initiation drawnId keyPhase (some (keyOf 10))
      (some (keyOf 11)) with
  | .ok (_, response) => response
  | .error _ => .cookieReply (Bytes.zero 32)

def finishOf (client : InitiatorHandshake) (keyPhase : UInt32) : HandshakeMessage :=
  match client.finishForSession transparent (responseTo client keyPhase) drawnId keyPhase ⟨0, 0⟩ with
  | .ok (finish, _) => finish
  | .error _ => .cookieReply (Bytes.zero 32)

def owner : InitiatorHandshake :=
  certifiedClient 1 3 (some (certifiedSetup.cookieKey.mint transparent clientEndpoint (keyOf 3) (keyOf 1) 0))

def revokedHolder : InitiatorHandshake :=
  certifiedClient 2 4 none

/-- The owner's session is rekeyed by a revoked holder. -/
def takeover : List (Event × Env) :=
  [fromClient .handshake 0 SessionId.zero owner.initiation,
    fromClient .handshake 1 drawnId (finishOf owner 0),
    fromClient .rekey 0 drawnId revokedHolder.initiation,
    fromClient .rekey 1 drawnId (finishOf revokedHolder 1)]

/-- The takeover: session, kind, proved key, and whether key 2 was revoked. -/
lemma history_takeover :
    (run (step certifiedSetup) (start transparent revokingConfig [] (some revokingAuthority))
      takeover).history.map (fun entry => (entry.1.sessionId, entry.1.kind, entry.1.remote,
        entry.2.map (·.isRevoked (hexEncode (keyOf 2).toList)))) =
      [(drawnId, .rekey, some (keyOf 2), some true),
        (drawnId, .handshake, some (keyOf 1), some true)] := by
  decide +kernel

/-- Key 1's session is rekeyed with the revoked certificate of key 2. -/
theorem revoked_holder_rekeys : ∃ record first ca ca', (run (step certifiedSetup)
        (start transparent revokingConfig [] (some revokingAuthority)) takeover).history =
          [(record, ca), (first, ca')] ∧
      record.kind = .rekey ∧ first.kind = .handshake ∧ record.sessionId = first.sessionId ∧
      first.remote = some (keyOf 1) ∧ record.remote = some (keyOf 2) ∧ Revoked ca (keyOf 2) ∧
      ¬ RekeyLaw (run (step certifiedSetup)
        (start transparent revokingConfig [] (some revokingAuthority)) takeover) := by
  have recorded := history_takeover
  generalize run (step certifiedSetup) (start transparent revokingConfig [] (some revokingAuthority))
    takeover = t at recorded
  obtain ⟨⟨record, ca⟩, rest, history, newest, recorded⟩ := List.map_eq_cons_iff.1 recorded
  obtain ⟨⟨first, ca'⟩, rest', rfl, oldest, recorded⟩ := List.map_eq_cons_iff.1 recorded
  obtain rfl := List.map_eq_nil_iff.1 recorded
  simp only [Prod.mk.injEq, Option.map_eq_some_iff] at newest oldest
  obtain ⟨session, kind, remote, authority, rfl, revoked⟩ := newest
  obtain ⟨session', kind', remote', _⟩ := oldest
  have listed : Revoked (some authority) (keyOf 2) := ⟨authority, rfl, revoked⟩
  refine ⟨record, first, some authority, ca', history, kind, kind', session.trans session'.symm,
    remote', remote, listed, ?_⟩
  intro law
  obtain ⟨_, key, _, _, proved, fresh⟩ := law [] record (some authority) _ history kind
  rw [remote] at proved
  cases proved
  exact fresh listed

end RevokedHolder

end Trace

end Rvpn.Server
