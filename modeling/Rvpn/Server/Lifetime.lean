import Rvpn.Server.Ownership

/-!
# The lifetime of a session id

A session id is drawn for an initial handshake and stays with the session through its rekeys. With
draws that do not repeat, an id that was active once comes back only through a rekey that was pending
when the session left the table: nothing but a reload clears the pending table then.
-/

namespace Rvpn.Server
open Config Crypto HashMap Protocol Routing

variable {P : Primitives}

def Env.Draws (env : Env) (id : SessionId) : Prop :=
  ∃ n, (env.draw n).sessionId = some id.bytes

/-- Session ids are random: no round draws one that an earlier round drew. -/
def FreshDraws (events : List (Event × Env)) : Prop :=
  events.Pairwise fun earlier later => ∀ id, earlier.2.Draws id → ¬ later.2.Draws id

def DrawnIn (events : List (Event × Env)) (id : SessionId) : Prop :=
  ∃ event ∈ events, event.2.Draws id

variable {events : List (Event × Env)} {id : SessionId}

lemma drawnIn_append {event : Event × Env} :
    DrawnIn (events ++ [event]) id ↔ DrawnIn events id ∨ event.2.Draws id := by
  refine ⟨?_, ?_⟩
  · intro drawn
    obtain ⟨e, mem, drawn⟩ := drawn
    rcases List.mem_append.1 mem with mem | mem
    · exact .inl ⟨e, mem, drawn⟩
    · cases List.mem_singleton.1 mem
      exact .inr drawn
  · intro drawn
    rcases drawn with ⟨e, mem, drawn⟩ | drawn
    · exact ⟨e, List.mem_append_left _ mem, drawn⟩
    · exact ⟨event, List.mem_append_right _ (List.mem_singleton_self event), drawn⟩

lemma FreshDraws.last {event : Event × Env} (fresh : FreshDraws (events ++ [event]))
    (drawn : DrawnIn events id) : ¬ event.2.Draws id := by
  obtain ⟨e, mem, drawn⟩ := drawn
  exact (List.pairwise_append.1 fresh).2.2 e mem event (List.mem_singleton_self event) id drawn

lemma FreshDraws.init {later : List (Event × Env)} (fresh : FreshDraws (events ++ later)) :
    FreshDraws events :=
  (List.pairwise_append.1 fresh).1

/-- An initial handshake has an inactive id, a rekey its session's identity. -/
def PendingHandshake.Agrees (state : PendingHandshake P) (active : ActivePeers P)
    (id : SessionId) : Prop :=
  (state.kind = .handshake ∧ id ∉ active) ∨
    (state.kind = .rekey ∧ ∃ identity, state.source = .known identity ∧
      ∀ peer, active.lookup id = some peer → peer.identity = identity)

lemma PendingHandshake.Agrees.of_old {state : PendingHandshake P} {active active' : ActivePeers P}
    (h : state.Agrees active id)
    (old : ∀ peer', active'.lookup id = some peer' →
      ∃ peer, active.lookup id = some peer ∧ peer'.identity = peer.identity) :
    state.Agrees active' id := by
  obtain ⟨kind, absent⟩ | ⟨kind, identity, source, same⟩ := h
  · refine .inl ⟨kind, ?_⟩
    intro mem
    obtain ⟨peer', found'⟩ := mem_iff_lookup.1 mem
    obtain ⟨peer, found, _⟩ := old peer' found'
    exact absent (mem_iff_lookup.2 ⟨peer, found⟩)
  · refine .inr ⟨kind, identity, source, ?_⟩
    intro peer' found'
    obtain ⟨peer, found, eq⟩ := old peer' found'
    exact eq.trans (same peer found)

namespace ServerLoop

/-- What is known of the ids in the two tables. -/
structure Known (drawn : SessionId → Prop) (s : ServerLoop P) : Prop where
  active : ∀ id peer, s.active.lookup id = some peer → peer.session.sessionId = id ∧ drawn id
  pending : ∀ id state, s.pending.entries.lookup id = some state →
    state.handshake.sessionId = id ∧ drawn id ∧ state.Agrees s.active id

variable {setup : Setup} {s : ServerLoop P} {drawn : SessionId → Prop} {event : Event × Env}

lemma Known.mono (h : s.Known drawn) {drawn' : SessionId → Prop}
    (more : ∀ id, drawn id → drawn' id) : s.Known drawn' := by
  refine ⟨?_, ?_⟩
  · intro id peer found
    obtain ⟨own, used⟩ := h.active id peer found
    exact ⟨own, more id used⟩
  · intro id state found
    obtain ⟨own, used, kind⟩ := h.pending id state found
    exact ⟨own, more id used, kind⟩

variable {id : SessionId}

lemma Known.drawn_of_mem (h : s.Known drawn) (mem : id ∈ s.active) : drawn id := by
  obtain ⟨peer, found⟩ := mem_iff_lookup.1 mem
  exact (h.active id peer found).2

lemma Known.sessionId_of_completes (h : s.Known drawn) {peer : SocketAddr} {packet : Packet}
    {clock : Clock} {state : PendingHandshake P} {session : ProtectedSession P}
    {remote : Option (Bytes 32)} {identity : PeerIdentity}
    (completes : Completes setup.parser s.pending peer packet clock state session remote identity) :
    session.sessionId = packet.header.sessionId := by
  rw [completes.sessionId]
  exact (h.pending _ state completes.found).1

/-- A calm round starts handshakes for new ids or active sessions. -/
lemma Known.of_started (h : s.Known drawn) (fresh : ∀ id, drawn id → ¬ event.2.Draws id)
    {active : ActivePeers P} (derives : Derives s.active active)
    {state : PendingHandshake P} (started : Started s event.2 id state) :
    state.handshake.sessionId = id ∧ (drawn id ∨ event.2.Draws id) ∧ state.Agrees active id := by
  have absent : event.2.Draws id → id ∉ active := by
    intro now mem
    obtain ⟨peer', found'⟩ := mem_iff_lookup.1 mem
    obtain ⟨peer, found, _⟩ := derives id peer' found'
    exact fresh id (h.active id peer found).2 now
  cases started with
  | known identity n initiation response configured kind source now accepted =>
    exact ⟨accepted.handshake.1, .inr ⟨n, now⟩, .inl ⟨kind, absent ⟨n, now⟩⟩⟩
  | authority ca auth n initiation response configured kind source usable now accepted =>
    exact ⟨accepted.handshake.1, .inr ⟨n, now⟩, .inl ⟨kind, absent ⟨n, now⟩⟩⟩
  | rekey key current initiation response found same kind source room accepted =>
    obtain ⟨own, used⟩ := h.active key current found
    rw [own] at same
    subst same
    refine ⟨accepted.handshake.1, .inl used, .inr ⟨kind, current.identity, source, ?_⟩⟩
    intro peer' found'
    obtain ⟨peer, before, keeps⟩ := derives _ peer' found'
    rw [found] at before
    cases before
    exact keeps.identity

lemma Known.step (h : s.Known drawn) (fresh : ∀ id, drawn id → ¬ event.2.Draws id) :
    (step setup s event).1.Known fun id => drawn id ∨ event.2.Draws id := by
  obtain calm | ⟨peer, packet, state, session, remote, identity, _, _, completes, pending, out, _,
    calm⟩ := s.step_active setup event
  · refine ⟨?_, ?_⟩
    · intro id peer' found'
      obtain ⟨peer, found, keeps⟩ := calm.table id peer' found'
      obtain ⟨own, used⟩ := h.active id peer found
      exact ⟨keeps.sessionId.trans own, .inl used⟩
    · intro id state' found'
      obtain ⟨old, found, _, rfl⟩ | started := s.step_pending setup found'
      · obtain ⟨own, used, agrees⟩ := h.pending id old found
        refine ⟨own, .inl used, agrees.of_old ?_⟩
        intro peer' active'
        obtain ⟨peer, active, keeps⟩ := calm.table id peer' active'
        exact ⟨peer, active, keeps.identity⟩
      · exact h.of_started fresh calm.table started
  · have own := h.sessionId_of_completes completes
    refine ⟨?_, ?_⟩
    · intro id peer' found'
      obtain ⟨kept, found, keeps⟩ := calm.table id peer' found'
      rw [keeps.sessionId]
      obtain ⟨rfl, _, same, _⟩ | ⟨_, found⟩ := lookup_install found
      · rw [own] at same ⊢
        exact ⟨same, .inl (h.pending _ state completes.found).2.1⟩
      · obtain ⟨own, used⟩ := h.active id kept found
        exact ⟨own, .inl used⟩
    · intro id state' found'
      rw [pending] at found'
      obtain ⟨other, found⟩ := lookup_pending_remove found'
      obtain ⟨own', used, agrees⟩ := h.pending id state' found
      refine ⟨own', .inl used, agrees.of_old ?_⟩
      intro peer' active'
      obtain ⟨kept, installed, keeps⟩ := calm.table id peer' active'
      obtain ⟨same, _⟩ | ⟨_, active⟩ := lookup_install installed
      · exact absurd (same.trans own) other
      · exact ⟨kept, active, keeps.identity⟩

lemma after_concat (events : List (Event × Env)) (event : Event × Env) :
    s.after setup (events ++ [event]) = ((s.after setup events).step setup event).1 :=
  run_append _ _ _

lemma known_run {setup : Setup} (config : ServerConfig) (identities : List PeerIdentity)
    (ca : Option CertificateAuthorityConfig) {events : List (Event × Env)}
    (fresh : FreshDraws events) :
    ((start P config identities ca).after setup events).Known (DrawnIn events) := by
  induction events using List.reverseRecOn with
  | nil =>
    refine ⟨?_, ?_⟩
    · intro id peer found
      cases found
    · intro id state found
      cases found
  | append_singleton events event ih =>
    rw [after_concat]
    refine ((ih fresh.init).step fun id used => fresh.last used).mono ?_
    intro id used
    exact drawnIn_append.2 used

/-- No initial handshake is pending for the id. -/
def Settled (s : ServerLoop P) (id : SessionId) : Prop :=
  ∀ state, s.pending.entries.lookup id = some state → state.kind = .rekey

lemma Known.settled (h : s.Known drawn) (mem : id ∈ s.active) : s.Settled id := by
  intro state found
  obtain ⟨_, _, ⟨_, absent⟩ | ⟨kind, _⟩⟩ := h.pending id state found
  · exact absurd mem absent
  · exact kind

lemma Settled.step {id : SessionId} (h : s.Settled id) (drawnBefore : ¬ event.2.Draws id) :
    (step setup s event).1.Settled id := by
  intro state found
  obtain ⟨old, before, _, rfl⟩ | started := s.step_pending setup found
  · exact h old before
  · cases started with
    | known identity n initiation response configured kind source now accepted =>
      exact absurd ⟨n, now⟩ drawnBefore
    | authority ca auth n initiation response configured kind source usable now accepted =>
      exact absurd ⟨n, now⟩ drawnBefore
    | rekey key current initiation response found same kind source room accepted => exact kind

/-- A finish arrives for a pending rekey only while its session is active. -/
def LiveRekey (setup : Setup) (s : ServerLoop P) (event : Event × Env) : Prop :=
  ∀ peer packet state, event.1.Arrives P setup peer packet → packet.header.sequence = 1 →
    s.pending.entries.lookup packet.header.sessionId = some state → state.kind = .rekey →
    packet.header.sessionId ∈ s.active

/-- A settled id that is not active stays so. -/
lemma Known.not_mem_step (h : s.Known drawn) (settled : s.Settled id) (live : s.LiveRekey setup event)
    (dead : id ∉ s.active) : id ∉ (ServerLoop.step setup s event).1.active := by
  intro mem
  obtain ⟨peer', found'⟩ := mem_iff_lookup.1 mem
  obtain calm | ⟨peer, packet, state, session, remote, identity, arrives, first, completes, _, _, _,
    calm⟩ := s.step_active setup event
  · obtain ⟨peer, found, _⟩ := calm.table id peer' found'
    exact dead (mem_iff_lookup.2 ⟨peer, found⟩)
  · obtain ⟨kept, found, _⟩ := calm.table id peer' found'
    obtain ⟨rfl, _⟩ | ⟨_, found⟩ := lookup_install found
    · -- the installed id is settled, so what completed is a rekey, and its session is active
      rw [h.sessionId_of_completes completes] at settled dead
      exact dead (live peer packet state arrives first completes.found
        (settled state completes.found))
    · exact dead (mem_iff_lookup.2 ⟨kept, found⟩)

lemma settled_run {setup : Setup} (config : ServerConfig) (identities : List PeerIdentity)
    (ca : Option CertificateAuthorityConfig) (before later : List (Event × Env))
    (fresh : FreshDraws (before ++ later))
    (mem : id ∈ ((start P config identities ca).after setup before).active) :
    ((start P config identities ca).after setup (before ++ later)).Settled id := by
  induction later using List.reverseRecOn with
  | nil =>
    rw [List.append_nil]
    exact (known_run config identities ca fresh.init).settled mem
  | append_singleton later event ih =>
    rw [← List.append_assoc] at fresh ⊢
    rw [after_concat]
    refine (ih fresh.init).step (fresh.last ?_)
    obtain ⟨e, member, drawn⟩ := (known_run config identities ca fresh.init.init).drawn_of_mem mem
    exact ⟨e, List.mem_append_left _ member, drawn⟩

/-- If finishes arrive for pending rekeys of active sessions only, an id that has left does not come back. -/
theorem dead_session_stays_dead (setup : Setup) (config : ServerConfig)
    (identities : List PeerIdentity) (ca : Option CertificateAuthorityConfig)
    (before between later : List (Event × Env)) (fresh : FreshDraws (before ++ between ++ later))
    (live : EachStep (fun s event => (step setup s event).1) (LiveRekey setup)
      (start P config identities ca) (before ++ between ++ later))
    (id : SessionId) (mem : id ∈ ((start P config identities ca).after setup before).active)
    (dead : id ∉ ((start P config identities ca).after setup (before ++ between)).active) :
    id ∉ ((start P config identities ca).after setup (before ++ between ++ later)).active := by
  induction later using List.reverseRecOn with
  | nil => rwa [List.append_nil]
  | append_singleton later event ih =>
    rw [← List.append_assoc] at fresh live ⊢
    rw [after_concat]
    have settled : ((start P config identities ca).after setup (before ++ between ++ later)).Settled
        id := by
      have whole := fresh.init
      rw [List.append_assoc] at whole ⊢
      exact settled_run config identities ca before (between ++ later) whole mem
    refine (known_run config identities ca fresh.init).not_mem_step settled ?_ ?_
    · exact live _ event [] rfl
    · exact ih fresh.init live.of_append

section PinnedPeer
open Primitives Trace

def quietly (events : List Event) : List (Event × Env) :=
  events.map fun event =>
    (event, { sampleEnv with draw := fun _ => ⟨none, some (keyOf 10), some (keyOf 11)⟩ })

def opening : Event × Env :=
  fromClient .handshake 0 SessionId.zero pinnedFirst.initiation

def finishing : Event :=
  (fromClient .handshake 1 drawnId (pinnedFinish pinnedFirst 0)).1

def rekeying : Event :=
  (fromClient .rekey 0 drawnId pinnedSecond.initiation).1

def rekeyed : Event :=
  (fromClient .rekey 1 drawnId (pinnedFinish pinnedSecond 1)).1

def closing (client : InitiatorHandshake) (keyPhase : UInt32) : Event :=
  match pinnedOutcome client keyPhase with
  | some (_, session) =>
    match session.sealPacket .close [] with
    | (.ok packet, _) => .datagram clientEndpoint packet.encode
    | (.error _, _) => .receiveFailed
  | none => .receiveFailed

def afterOpening (events : List Event) : ServerLoop transparent :=
  pinnedStart.server.after (deviceSetup (none, none)) (opening :: quietly events)

lemma fresh_quietly (first : Event × Env) (events : List Event) :
    FreshDraws (first :: quietly events) := by
  have never : ∀ event ∈ quietly events, ∀ id, ¬ event.2.Draws id := by
    intro event mem id drawn
    obtain ⟨_, _, rfl⟩ := List.mem_map.1 mem
    obtain ⟨n, drawn⟩ := drawn
    cases drawn
  refine List.pairwise_cons.2 ⟨fun event mem id _ => never event mem id, ?_⟩
  refine List.pairwise_iff_forall_sublist.2 ?_
  intro earlier event sub id _
  exact never event (sub.subset (by simp)) id

/-- A session closed while its rekey is pending comes back. -/
theorem closed_session_comes_back :
    FreshDraws (opening :: quietly [finishing, rekeying, closing pinnedFirst 0, rekeyed]) ∧
      drawnId ∈ (afterOpening [finishing, rekeying]).active.keys ∧
      drawnId ∉ (afterOpening [finishing, rekeying, closing pinnedFirst 0]).active.keys ∧ drawnId ∈
        (afterOpening [finishing, rekeying, closing pinnedFirst 0, rekeyed]).active.keys := by
  refine ⟨fresh_quietly opening _, ?_⟩
  decide +kernel

/-- The rekey's finish, the close, and the finish again. -/
def rekeyedThenClosed : List Event :=
  [finishing, rekeying, rekeyed, closing pinnedSecond 1, rekeyed]

lemma rekeyedThenClosed_live : ∀ n ∈ List.range 6,
    ∀ entry ∈ (HashMap.toPairs (pinnedStart.server.after (deviceSetup (none, none))
        ((opening :: quietly rekeyedThenClosed).take n)).pending.entries).map
          (fun entry => (entry.1, entry.2.kind)), entry.2 = .rekey →
      entry.1 ∈ (pinnedStart.server.after (deviceSetup (none, none))
        ((opening :: quietly rekeyedThenClosed).take n)).active.keys := by
  decide +kernel

theorem dead_session_stays_dead_closed : drawnId ∈ (afterOpening [finishing]).active ∧
      drawnId ∉ (afterOpening [finishing, rekeying, rekeyed, closing pinnedSecond 1]).active ∧
      drawnId ∉ (afterOpening rekeyedThenClosed).active := by
  have checked : drawnId ∈ (afterOpening [finishing]).active ∧ drawnId ∉
      (afterOpening [finishing, rekeying, rekeyed, closing pinnedSecond 1]).active := by
    decide +kernel
  obtain ⟨established, closed⟩ := checked
  refine ⟨established, closed, ?_⟩
  refine dead_session_stays_dead (deviceSetup (none, none)) _ _ _ (opening :: quietly [finishing])
    (quietly [rekeying, rekeyed, closing pinnedSecond 1]) (quietly [rekeyed])
    (fresh_quietly opening rekeyedThenClosed) ?_ drawnId established closed
  intro before event rest eq peer packet state _ _ found kind
  have whole : opening :: quietly rekeyedThenClosed = before ++ event :: rest := eq
  have taken : (opening :: quietly rekeyedThenClosed).take before.length = before := by
    rw [whole, List.take_left]
  have short : before.length < 6 := by
    have length : (opening :: quietly rekeyedThenClosed).length = 6 := rfl
    rw [whole, List.length_append, List.length_cons] at length
    omega
  have live := rekeyedThenClosed_live before.length (List.mem_range.2 short)
  rw [taken] at live
  exact AList.mem_keys.2 (live (_, state.kind)
    (List.mem_map.2 ⟨(_, state), mem_toPairs.2 found, rfl⟩) kind)

end PinnedPeer

end ServerLoop

end Rvpn.Server
