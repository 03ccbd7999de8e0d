import Rvpn.Server.Sessions

/-!
# Key phases of the server

A session id goes through key phases 0, 1, 2, ..., with one set of keys for each. `Phases` is the
invariant that says so: `past` are the ids, phases and keys that were in the table, `received` the
packets that its sessions opened. `Switched` follows one switch of a session: until the next switch the
previous phase is there with the time at which it expires.
-/

namespace Rvpn.Server
open Config Crypto Protocol Routing

variable {P : Primitives}

/-- The sequence numbers of one phase of a session among some packets. -/
def receivedIn (packets : List Packet) (id : SessionId) (keyPhase : UInt32) : Finset Nat :=
  ((packets.filter fun p => p.header.sessionId = id ∧ p.header.keyPhase = keyPhase).map fun p =>
    p.header.sequence.toNat).toFinset

variable {id : SessionId} {packets : List Packet}

lemma mem_receivedIn {keyPhase : UInt32} {n : Nat} :
    n ∈ receivedIn packets id keyPhase ↔ ∃ p ∈ packets, p.header.sessionId = id ∧
      p.header.keyPhase = keyPhase ∧ p.header.sequence.toNat = n := by
  simp [receivedIn, and_assoc]

lemma receivedIn_cons_self (p : Packet) :
    receivedIn (p :: packets) p.header.sessionId p.header.keyPhase =
      insert p.header.sequence.toNat (receivedIn packets p.header.sessionId p.header.keyPhase) := by
  simp [receivedIn]

lemma receivedIn_cons_ne {p : Packet} {keyPhase : UInt32}
    (other : ¬ (p.header.sessionId = id ∧ p.header.keyPhase = keyPhase)) :
    receivedIn (p :: packets) id keyPhase = receivedIn packets id keyPhase := by
  simp [receivedIn, other]

/-- What holds of a session in the table. -/
structure InPhase (past : SessionId → UInt32 → SessionKeys P → Prop) (received : List Packet)
    (id : SessionId) (session : ProtectedSession P) : Prop where
  own : past id session.keyPhase session.keys
  latest : ∀ keyPhase keys, past id keyPhase keys → keyPhase.toNat ≤ session.keyPhase.toNat
  window : Represents session.receiveReplay (receivedIn received id session.keyPhase)
  previous : ∀ prev, session.previous = some prev →
    prev.keyPhase.toNat + 1 = session.keyPhase.toNat ∧ past id prev.keyPhase prev.keys ∧
      Represents prev.replay (receivedIn received id prev.keyPhase)

section
variable {past : SessionId → UInt32 → SessionKeys P → Prop} {received : List Packet} {id : SessionId}
  {session session' : ProtectedSession P}

lemma InPhase.resumes (h : InPhase past received id session) (n : UInt64) :
    InPhase past received id { session with nextSendSequence := n } :=
  ⟨h.own, h.latest, h.window, h.previous⟩

variable {packet : Packet} {m : List UInt8}

lemma InPhase.other (h : InPhase past received id session) (other : packet.header.sessionId ≠ id) :
    InPhase past (packet :: received) id session := by
  have same : ∀ keyPhase, receivedIn (packet :: received) id keyPhase = receivedIn received id keyPhase :=
    fun keyPhase => receivedIn_cons_ne fun eq => other eq.1
  refine ⟨h.own, h.latest, ?_, ?_⟩
  · rw [same]
    exact h.window
  · intro prev found
    rw [same]
    exact h.previous prev found

lemma represents_openPhase {keys : SessionKeys P} {w w' : ReplayWindow}
    (rep : Represents w (receivedIn received packet.header.sessionId packet.header.keyPhase))
    (opened : ProtectedSession.openPhase keys w packet = (.ok m, w')) :
    Represents w' (receivedIn (packet :: received) packet.header.sessionId packet.header.keyPhase) := by
  rw [receivedIn_cons_self]
  exact (ReplayWindow.represents_accept rep (ProtectedSession.openPhase_ok opened).2).2

lemma InPhase.opens (h : InPhase past received id session) (underId : session.sessionId = id)
    {now : Nat} (opened : session.openPacket packet now = (.ok m, session')) :
    InPhase past (packet :: received) id session' := by
  obtain ⟨_, own, ⟨phase, w, opens, rfl⟩ | ⟨phase, prev, w, found, prevPhase, _, opens, rfl⟩⟩ :=
    ProtectedSession.openPacket_ok opened
  · rw [underId] at own
    subst own
    refine ⟨h.own, h.latest, ?_, ?_⟩
    · have rep := h.window
      rw [← phase] at rep
      show Represents w (receivedIn _ _ session.keyPhase)
      rw [← phase]
      exact represents_openPhase rep opens
    · intro prev found
      obtain ⟨next, past', rep⟩ := h.previous prev found
      refine ⟨next, past', ?_⟩
      rw [receivedIn_cons_ne]
      · exact rep
      · intro eq
        rw [← eq.2, phase] at next
        omega
  · rw [underId] at own
    subst own
    obtain ⟨next, past', rep⟩ := h.previous prev found
    refine ⟨h.own, h.latest, ?_, ?_⟩
    · show Represents session.receiveReplay (receivedIn _ _ session.keyPhase)
      rw [receivedIn_cons_ne fun eq => phase eq.2]
      exact h.window
    · intro prev' eq
      cases eq
      refine ⟨next, past', ?_⟩
      show Represents w (receivedIn _ _ prev.keyPhase)
      rw [prevPhase] at rep ⊢
      exact represents_openPhase rep opens

lemma InPhase.logged (h : InPhase past received id session) {now : Nat}
    (opened : session.openPacket packet now = (.ok m, session')) :
    ∃ keys, past id packet.header.keyPhase keys := by
  obtain ⟨_, _, ⟨phase, _⟩ | ⟨_, prev, _, some, phase, _⟩⟩ := ProtectedSession.openPacket_ok opened
  · rw [phase]
    exact ⟨_, h.own⟩
  · rw [← phase]
    exact ⟨_, (h.previous prev some).2.1⟩

end

variable {endpoint : SocketAddr} {identity : PeerIdentity} {state : PendingHandshake P}

/-- A completed session has the handshake's phase and is fresh. -/
lemma Completes.session {parser : AddressParser} {pending : PendingHandshakes P} {packet : Packet}
    {clock : Clock} {session : ProtectedSession P} {remote : Option (Bytes 32)}
    (h : Completes parser pending endpoint packet clock state session remote identity) :
    session.keyPhase = state.handshake.keyPhase ∧ session.receiveReplay = ReplayWindow.default ∧
      session.previous = none := by
  obtain ⟨message, _, finished⟩ := h.finish
  obtain ⟨_, _, _, _, _, _, _, _, _, _, _, rfl⟩ := ResponderHandshake.finish_ok finished
  exact ⟨rfl, rfl, rfl⟩

lemma Accepted.keyPhase {auth : AuthConfig} {draw : HandshakeDraw} {keyPhase : UInt32}
    {initiation response : HandshakeMessage}
    (h : Accepted auth draw id keyPhase initiation response state) :
    state.handshake.keyPhase = keyPhase := by
  obtain ⟨_, _, _, _, _, _, _, _, _, _, _, _, _, _, _, _, eq⟩ :=
    ResponderHandshake.acceptForSession_ok h.accepted
  rw [eq]

lemma Accepted.keyPhase_next {auth : AuthConfig} {draw : HandshakeDraw} {keyPhase : UInt32}
    {initiation response : HandshakeMessage}
    (h : Accepted auth draw id (keyPhase + 1) initiation response state)
    (room : keyPhase.toNat ≠ 2 ^ 32 - 1) : state.handshake.keyPhase.toNat = keyPhase.toNat + 1 := by
  have lt := keyPhase.toNat_lt
  rw [h.keyPhase, UInt32.toNat_add]
  exact Nat.mod_eq_of_lt (by simp; omega)

lemma lookup_install_session {active : ActivePeers P} {session : ProtectedSession P}
    {gracePeriod rxRate now : Nat} {peer : ActivePeer P}
    (found : (install active identity session endpoint gracePeriod rxRate now).1.lookup
      session.sessionId = some peer) :
    (active.lookup session.sessionId = none ∧ peer.session = session) ∨
      ∃ existing, active.lookup session.sessionId = some existing ∧
        peer.session = session.inheritPrevious existing.session gracePeriod now := by
  obtain ⟨absent, rfl⟩ | ⟨existing, before, rfl⟩ := lookup_install_own found
  · exact .inl ⟨absent, rfl⟩
  · exact .inr ⟨existing, before, rfl⟩

/-- Its receive window is new, its previous phase the current one of before. -/
lemma install_windows {active : ActivePeers P} {session : ProtectedSession P}
    {gracePeriod rxRate now : Nat} {peer : ActivePeer P}
    (found : (install active identity session endpoint gracePeriod rxRate now).1.lookup
      session.sessionId = some peer) (new : session.previous = none) :
    peer.session.receiveReplay = session.receiveReplay ∧ ∀ prev, peer.session.previous = some prev →
        ∃ existing, active.lookup session.sessionId = some existing ∧
          prev.keyPhase = existing.session.keyPhase ∧ prev.keys = existing.session.keys ∧
          prev.replay = existing.session.receiveReplay := by
  have unchanged : peer.session = session → peer.session.receiveReplay = session.receiveReplay ∧
      ∀ prev, peer.session.previous = some prev →
        ∃ existing, active.lookup session.sessionId = some existing ∧
          prev.keyPhase = existing.session.keyPhase ∧ prev.keys = existing.session.keys ∧
          prev.replay = existing.session.receiveReplay := by
    intro eq
    rw [eq, new]
    exact ⟨rfl, by simp⟩
  obtain ⟨_, eq⟩ | ⟨existing, before, eq⟩ := lookup_install_session found
  · exact unchanged eq
  · obtain same | ⟨_, _, inherits⟩ := session.inheritPrevious_cases existing.session gracePeriod now
    · exact unchanged (eq.trans same)
    · rw [eq, inherits]
      refine ⟨rfl, ?_⟩
      intro prev some
      cases some
      exact ⟨existing, before, rfl, rfl, rfl⟩

namespace ServerLoop

/-- The invariant of a server with its history. -/
structure Phases (past : SessionId → UInt32 → SessionKeys P → Prop) (drawn : SessionId → Prop)
    (received : List Packet) (s : ServerLoop P) : Prop where
  unique : ∀ id keyPhase keys keys', past id keyPhase keys → past id keyPhase keys' → keys = keys'
  used : ∀ id keyPhase keys, past id keyPhase keys → drawn id
  logged : ∀ packet ∈ received, ∃ keys, past packet.header.sessionId packet.header.keyPhase keys
  active : ∀ id peer, s.active.lookup id = some peer → InPhase past received id peer.session
  pending : ∀ id state, s.pending.entries.lookup id = some state →
    (∀ keyPhase keys, past id keyPhase keys → keyPhase.toNat < state.handshake.keyPhase.toNat) ∧
    ∀ peer, s.active.lookup id = some peer →
      state.handshake.keyPhase.toNat = peer.session.keyPhase.toNat + 1

variable {past : SessionId → UInt32 → SessionKeys P → Prop} {drawn : SessionId → Prop}
  {received : List Packet} {setup : Setup} {s : ServerLoop P} {event : Event × Env}

variable {id : SessionId}

/-- A handshake was pending, has a new id, or rekeys to the next phase. -/
lemma pending_keyPhase (known : s.Known drawn) {state : PendingHandshake P}
    (found : (step setup s event).1.pending.entries.lookup id = some state) :
    (∃ old, s.pending.entries.lookup id = some old ∧
        state.handshake.keyPhase = old.handshake.keyPhase) ∨
      event.2.Draws id ∨ ∃ current, s.active.lookup id = some current ∧
        state.handshake.keyPhase.toNat = current.session.keyPhase.toNat + 1 := by
  obtain ⟨old, before, _, rfl⟩ | started := s.step_pending setup found
  · exact .inl ⟨old, before, rfl⟩
  · right
    cases started with
    | known identity n initiation response configured kind source now accepted =>
      exact .inl ⟨n, now⟩
    | authority ca auth n initiation response configured kind source usable now accepted =>
      exact .inl ⟨n, now⟩
    | rekey key current initiation response active same kind source room accepted =>
      rw [(known.active key current active).1] at same
      subst same
      exact .inr ⟨current, active, accepted.keyPhase_next room⟩

lemma Phases.pending_step (h : s.Phases past drawn received) (known : s.Known drawn)
    (fresh : ∀ id, drawn id → ¬ event.2.Draws id)
    (derives : Derives s.active (step setup s event).1.active) {state : PendingHandshake P}
    (found : (step setup s event).1.pending.entries.lookup id = some state) :
    (∀ keyPhase keys, past id keyPhase keys → keyPhase.toNat < state.handshake.keyPhase.toNat) ∧
      ∀ peer, (step setup s event).1.active.lookup id = some peer →
        state.handshake.keyPhase.toNat = peer.session.keyPhase.toNat + 1 := by
  obtain ⟨old, before, phase⟩ | draws | ⟨current, active, phase⟩ := pending_keyPhase known found
  · obtain ⟨later, next⟩ := h.pending id old before
    rw [phase]
    refine ⟨later, ?_⟩
    intro peer' found'
    obtain ⟨peer, active, keeps⟩ := derives id peer' found'
    rw [keeps.keyPhase]
    exact next peer active
  · -- an id that is drawn now is in neither table
    refine ⟨?_, ?_⟩
    · intro keyPhase keys before
      exact absurd draws (fresh id (h.used id keyPhase keys before))
    · intro peer' found'
      obtain ⟨peer, before, _⟩ := derives id peer' found'
      exact absurd draws (fresh id (known.active id peer before).2)
  · refine ⟨?_, ?_⟩
    · intro keyPhase keys before
      have := (h.active id current active).latest keyPhase keys before
      omega
    · intro peer' found'
      obtain ⟨peer, before, keeps⟩ := derives id peer' found'
      rw [active] at before
      cases before
      rw [phase, keeps.keyPhase]

lemma inPhase_of_carries {active active' : ActivePeers P}
    (h : ∀ id peer, active.lookup id = some peer → InPhase past received id peer.session)
    (carries : CarriesOver active active') (id : SessionId) (peer' : ActivePeer P)
    (found' : active'.lookup id = some peer') : InPhase past received id peer'.session := by
  obtain ⟨peer, found, _, n, eq⟩ := carries id peer' found'
  rw [eq]
  exact (h id peer found).resumes n

/-- A table from which a calm part sealed has keys of the past. -/
lemma past_of_calm {active active' : ActivePeers P} {out : List (Output P)}
    (h : ∀ id peer, active.lookup id = some peer → past id peer.session.keyPhase peer.session.keys)
    (calm : Calm active (active', out)) {table : ActivePeers P} {packet : Packet}
    {plaintext : List UInt8} {peer : ActivePeer P}
    (sealed : Output.sealed table id packet plaintext ∈ out) (found : table.lookup id = some peer) :
    past id peer.session.keyPhase peer.session.keys := by
  obtain quiet | ⟨_, eq⟩ | ⟨_, eq⟩ := calm.outputs _ sealed
  · obtain ⟨before, active, keeps⟩ := quiet.1 id peer found
    rw [keeps.keyPhase, keeps.keys]
    exact h id before active
  · cases eq
  · cases eq

def extended (past : SessionId → UInt32 → SessionKeys P → Prop) (session : ProtectedSession P)
    (id : SessionId) (keyPhase : UInt32) (keys : SessionKeys P) : Prop :=
  past id keyPhase keys ∨ (id = session.sessionId ∧ keyPhase = session.keyPhase ∧ keys = session.keys)

lemma inPhase_extended {session new : ProtectedSession P} (h : InPhase past received id session)
    (other : id ≠ new.sessionId) : InPhase (extended past new) received id session := by
  refine ⟨.inl h.own, ?_, h.window, ?_⟩
  · intro keyPhase keys before
    rcases before with before | ⟨same, _⟩
    · exact h.latest keyPhase keys before
    · exact absurd same other
  · intro prev found
    obtain ⟨next, before, rep⟩ := h.previous prev found
    exact ⟨next, .inl before, rep⟩

/-- Nothing was received yet in a phase that is later than all of the past. -/
lemma Phases.receivedIn_eq_empty (h : s.Phases past drawn received) {keyPhase : UInt32}
    (later : ∀ keyPhase' keys, past id keyPhase' keys → keyPhase'.toNat < keyPhase.toNat) :
    receivedIn received id keyPhase = ∅ := by
  apply Finset.eq_empty_of_forall_notMem
  intro n mem
  obtain ⟨p, logged, same, eq, _⟩ := mem_receivedIn.1 mem
  obtain ⟨keys, before⟩ := h.logged p logged
  rw [same, eq] at before
  exact Nat.lt_irrefl _ (later keyPhase keys before)

section Installation
variable {peer : SocketAddr} {packet : Packet} {state : PendingHandshake P}
  {session : ProtectedSession P} {remote : Option (Bytes 32)} {identity : PeerIdentity}

/-- A completed session is in a later phase than all of the past. -/
lemma Phases.later_of_completes (h : s.Phases past drawn received) (known : s.Known drawn)
    (completes : Completes setup.parser s.pending peer packet event.2.clock state session remote
      identity) (keyPhase : UInt32) (keys : SessionKeys P)
    (before : past session.sessionId keyPhase keys) :
    keyPhase.toNat < session.keyPhase.toNat := by
  rw [known.sessionId_of_completes completes] at before
  rw [completes.session.1]
  exact (h.pending _ state completes.found).1 keyPhase keys before

lemma Phases.installed (h : s.Phases past drawn received) (known : s.Known drawn)
    (completes : Completes setup.parser s.pending peer packet event.2.clock state session remote
      identity) (id : SessionId) (entry : ActivePeer P)
    (found : (install s.active identity session peer setup.rekeyGracePeriod setup.rxRateBytesPerSec
      event.2.clock.instant).1.lookup id = some entry) :
    InPhase (extended past session) received id entry.session := by
  obtain ⟨rfl, _, _, keyPhase, keys⟩ | ⟨other, before⟩ := lookup_install found
  · have later := h.later_of_completes known completes
    obtain ⟨phase, window, new⟩ := completes.session
    obtain ⟨receives, previous⟩ := install_windows found new
    refine ⟨?_, ?_, ?_, ?_⟩
    · rw [keyPhase, keys]
      exact .inr ⟨rfl, rfl, rfl⟩
    · intro keyPhase' keys' before
      rw [keyPhase]
      rcases before with before | ⟨_, rfl, _⟩
      · exact Nat.le_of_lt (later keyPhase' keys' before)
      · exact Nat.le_refl _
    · -- nothing was received in the new phase yet
      rw [receives, window, keyPhase, h.receivedIn_eq_empty later]
      exact .init
    · intro prev some
      obtain ⟨existing, active, prevPhase, prevKeys, prevReplay⟩ := previous prev some
      have before := h.active _ existing active
      rw [known.sessionId_of_completes completes] at active
      have next := (h.pending _ state completes.found).2 existing active
      rw [prevPhase, prevKeys, prevReplay, keyPhase, phase]
      exact ⟨next.symm, .inl before.own, before.window⟩
  · exact inPhase_extended (h.active id entry before) other

lemma Phases.extended_unique (h : s.Phases past drawn received) (known : s.Known drawn)
    (completes : Completes setup.parser s.pending peer packet event.2.clock state session remote
      identity) (id : SessionId) (keyPhase : UInt32) (keys keys' : SessionKeys P)
    (before : extended past session id keyPhase keys)
    (before' : extended past session id keyPhase keys') : keys = keys' := by
  have later := h.later_of_completes known completes
  rcases before with before | ⟨rfl, rfl, rfl⟩
  · rcases before' with before' | ⟨rfl, rfl, rfl⟩
    · exact h.unique id keyPhase keys keys' before before'
    · exact absurd (later _ _ before) (Nat.lt_irrefl _)
  · rcases before' with before' | ⟨_, _, rfl⟩
    · exact absurd (later _ _ before') (Nat.lt_irrefl _)
    · rfl

end Installation

variable (setup event) in
/-- Every round keeps the invariant, with a longer past. -/
theorem Phases.step (h : s.Phases past drawn received) (known : s.Known drawn)
    (fresh : ∀ id, drawn id → ¬ event.2.Draws id) :
    ∃ past' : SessionId → UInt32 → SessionKeys P → Prop,
      (∀ id keyPhase keys, past id keyPhase keys → past' id keyPhase keys) ∧
      (step setup s event).1.Phases past' (fun id => drawn id ∨ event.2.Draws id)
        ((s.opened setup event).toList ++ received) ∧
      ∀ table id packet plaintext peer,
        Output.sealed table id packet plaintext ∈ (step setup s event).2 →
        table.lookup id = some peer → past' id peer.session.keyPhase peer.session.keys := by
  have own : ∀ id peer, s.active.lookup id = some peer →
      past id peer.session.keyPhase peer.session.keys :=
    fun id peer found => (h.active id peer found).own
  cases s.served_step setup event with
  | carried closed calm carries =>
    rw [closed]
    refine ⟨past, fun _ _ _ before => before, ⟨h.unique, ?_, h.logged, ?_, ?_⟩, ?_⟩
    · exact fun id keyPhase keys before => .inl (h.used id keyPhase keys before)
    · exact inPhase_of_carries h.active carries
    · exact fun id state found => h.pending_step known fresh calm.table found
    · exact fun table id packet plaintext peer sealed found => past_of_calm own calm sealed found
  | opens packet current plaintext session opened found accepted calm carries =>
    rw [opened]
    refine ⟨past, fun _ _ _ before => before, ⟨h.unique, ?_, ?_, ?_, ?_⟩, ?_⟩
    · exact fun id keyPhase keys before => .inl (h.used id keyPhase keys before)
    · intro p mem
      rcases List.mem_cons.1 mem with rfl | mem
      · exact (h.active _ current found).logged accepted
      · exact h.logged p mem
    · refine inPhase_of_carries ?_ carries
      intro id peer found'
      obtain ⟨rfl, rfl⟩ | ⟨other, found'⟩ := lookup_withSession found found'
      · exact (h.active _ current found).opens (known.active _ current found).1 accepted
      · exact (h.active id peer found').other other
    · exact fun id state found => h.pending_step known fresh calm.table found
    · exact fun table id packet plaintext peer sealed found => past_of_calm own calm sealed found
  | installs peer packet state session remote identity record out closed completes pending outputs calm
      carries =>
    rw [closed]
    have underId := known.sessionId_of_completes completes
    have entries := h.installed known completes
    refine ⟨extended past session, fun _ _ _ before => .inl before,
      ⟨h.extended_unique known completes, ?_, ?_, ?_, ?_⟩, ?_⟩
    · intro id keyPhase keys before
      rcases before with before | ⟨rfl, _⟩
      · exact .inl (h.used id keyPhase keys before)
      · rw [underId]
        exact .inl (known.pending _ state completes.found).2.1
    · intro p mem
      obtain ⟨keys, before⟩ := h.logged p mem
      exact ⟨keys, .inl before⟩
    · exact inPhase_of_carries entries carries
    · -- the other pending handshakes are not for the installed id
      intro id state' found'
      rw [pending] at found'
      obtain ⟨other, found⟩ := lookup_pending_remove found'
      obtain ⟨later', next'⟩ := h.pending id state' found
      refine ⟨?_, ?_⟩
      · intro keyPhase keys before
        rcases before with before | ⟨same, _⟩
        · exact later' keyPhase keys before
        · exact absurd (same.trans underId) other
      · intro entry' active'
        obtain ⟨entry, installed, keeps⟩ := calm.table id entry' active'
        obtain ⟨same, _⟩ | ⟨_, active⟩ := lookup_install installed
        · exact absurd (same.trans underId) other
        · rw [keeps.keyPhase]
          exact next' entry active
    · intro table id packet' plaintext entry sealed found
      rw [outputs] at sealed
      rcases List.mem_cons.1 sealed with eq | sealed
      · cases eq
      · exact past_of_calm (fun id entry found => (entries id entry found).own) calm sealed found

/-- After a switch from `p` the next phase is current, or it switched again. -/
structure Switched (id : SessionId) (p expires : Nat) (s : ServerLoop P) : Prop where
  active : ∀ peer, s.active.lookup id = some peer →
    (peer.session.keyPhase.toNat = p + 1 ∧ ∃ prev, peer.session.previous = some prev ∧
      prev.keyPhase.toNat = p ∧ prev.expiresAt = expires) ∨ p + 1 < peer.session.keyPhase.toNat
  pending : ∀ state, s.pending.entries.lookup id = some state →
    p + 1 < state.handshake.keyPhase.toNat

/-- A phase changes only by an installation, which inherits the old one. -/
lemma switched_of_step (known : s.Known drawn) (grace : setup.rekeyGracePeriod ≠ 0) {p : Nat}
    {peer peer' : ActivePeer P} (found : s.active.lookup id = some peer)
    (phase : peer.session.keyPhase.toNat = p)
    (found' : (step setup s event).1.active.lookup id = some peer')
    (phase' : peer'.session.keyPhase.toNat = p + 1) :
    (step setup s event).1.Switched id p (event.2.clock.instant + setup.rekeyGracePeriod) := by
  have moved : Derives s.active (step setup s event).1.active → False := by
    intro derives
    obtain ⟨before, active, keeps⟩ := derives id peer' found'
    rw [found] at active
    cases active
    rw [keeps.keyPhase] at phase'
    omega
  cases s.served_step setup event with
  | carried closed calm carries => exact absurd calm.table moved
  | opens packet current plaintext session opened found accepted calm carries =>
    exact absurd calm.table moved
  | installs endpoint packet state session remote identity record out closed completes pending outputs
      calm carries =>
    have underId := known.sessionId_of_completes completes
    obtain ⟨entry, installed, _, n, eq⟩ := carries id peer' found'
    obtain ⟨rfl, _, _, keyPhase, _⟩ | ⟨_, active⟩ := lookup_install installed
    · obtain ⟨absent, _⟩ | ⟨existing, active, inherits⟩ := lookup_install_session installed
      · rw [found] at absent
        cases absent
      · rw [found] at active
        cases active
        have older : peer.session.keyPhase < session.keyPhase := by
          rw [UInt32.lt_iff_toNat_lt, ← keyPhase]
          rw [eq] at phase'
          have : entry.session.keyPhase.toNat = p + 1 := phase'
          omega
        refine ⟨?_, ?_⟩
        · intro other foundOther
          rw [found'] at foundOther
          cases foundOther
          refine .inl ⟨phase', ?_⟩
          rw [eq, inherits]
          unfold ProtectedSession.inheritPrevious
          rw [if_neg grace, if_pos ⟨(known.active _ peer found).1, older⟩]
          exact ⟨_, rfl, phase, rfl⟩
        · intro state' pending'
          rw [pending] at pending'
          exact absurd underId (lookup_pending_remove pending').1
    · rw [found] at active
      cases active
      rw [eq] at phase'
      have : peer.session.keyPhase.toNat = p + 1 := phase'
      omega

lemma Switched.step {id : SessionId} {p expires : Nat} (h : s.Switched id p expires)
    (known : s.Known drawn) (drawnBefore : ¬ event.2.Draws id) :
    (ServerLoop.step setup s event).1.Switched id p expires := by
  have pending : ∀ state, (ServerLoop.step setup s event).1.pending.entries.lookup id = some state →
      p + 1 < state.handshake.keyPhase.toNat := by
    intro state found
    obtain ⟨old, before, phase⟩ | draws | ⟨current, active, phase⟩ := pending_keyPhase known found
    · rw [phase]
      exact h.pending old before
    · exact absurd draws drawnBefore
    · rcases h.active current active with ⟨now, _⟩ | later
      · omega
      · omega
  cases s.served_step setup event with
  | carried closed calm carries =>
    refine ⟨?_, pending⟩
    intro peer' found'
    obtain ⟨peer, found, _, n, eq⟩ := carries id peer' found'
    rw [eq]
    exact h.active peer found
  | opens packet current plaintext session opened found accepted calm carries =>
    refine ⟨?_, pending⟩
    intro peer' found'
    obtain ⟨peer, active, _, n, eq⟩ := carries id peer' found'
    rw [eq]
    obtain ⟨rfl, rfl⟩ | ⟨_, active⟩ := lookup_withSession found active
    · obtain ⟨_, _, ⟨_, _, _, rfl⟩ | ⟨_, prev, w, some, _, _, _, rfl⟩⟩ :=
        ProtectedSession.openPacket_ok accepted
      · exact h.active current found
      · rcases h.active current found with ⟨phase, prev', some', rest⟩ | later
        · rw [some] at some'
          cases some'
          exact .inl ⟨phase, _, rfl, rest⟩
        · exact .inr later
    · exact h.active peer active
  | installs endpoint packet state session remote identity record out closed completes pending'
      outputs calm carries =>
    refine ⟨?_, pending⟩
    intro peer' found'
    obtain ⟨entry, installed, _, n, eq⟩ := carries id peer' found'
    rw [eq]
    obtain ⟨rfl, _, _, keyPhase, _⟩ | ⟨_, active⟩ := lookup_install installed
    · right
      show p + 1 < entry.session.keyPhase.toNat
      rw [keyPhase, completes.session.1]
      have before := completes.found
      rw [← known.sessionId_of_completes completes] at before
      exact h.pending state before
    · exact h.active entry active

end ServerLoop

end Rvpn.Server
