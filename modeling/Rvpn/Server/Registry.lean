import Rvpn.Server.Lifetime

/-!
# The session table and the router

The router has its own entry for each session, and four branches of the loop change both tables.
They are compared through what they say of an id: `Router.registration` for the router and
`identification` for the active sessions. The router never re-registers a known session, so a session
that is replaced under its id has to keep its identity (`Known`).
-/

namespace Rvpn

namespace Routing.Router

/-- What the router says of a session: name and addresses. -/
def registration (r : Router) (id : SessionId) : Option (String × List IpNet) :=
  (r.peers.lookup id).map fun peer => (peer.name, peer.allowedIps)

/-- `Router::unregister` forgets one session. -/
lemma registration_unregister (r : Router) (session id : SessionId) :
    (r.unregister session).registration id = if id = session then none else r.registration id := by
  unfold unregister registration
  split
  · next gone =>
    split
    · next same => rw [same, gone, Option.map_none]
    · rfl
  · rw [rebuildTable_peers, HashMap.lookup_mapVal, HashMap.lookup_erase_eq]
    split
    · rfl
    · rw [Option.map_map]
      rfl

/-- `Router::register` sets what it says of one session. -/
lemma registration_register (r : Router) (session id : SessionId) (name : String)
    (allowedIps : List IpNet) : (r.register session name allowedIps).registration id =
      if id = session then some (name, allowedIps) else r.registration id := by
  by_cases same : id = session
  · subst same
    rw [if_pos rfl, registration, lookup_register_self, Option.map_some]
  · have gone := registration_unregister r session id
    rw [if_neg same] at gone
    rw [if_neg same, ← gone]
    simp only [registration, register, rebuildTable_peers, AList.lookup_insert_ne same,
      HashMap.lookup_mapVal, Option.map_map]
    congr 1
    funext other
    simp only [Function.comp_apply]
    split
    · rfl
    · rfl

/-- `Router::replace_links` keeps the registrations. -/
lemma registration_replaceLinks (r : Router) (links : Links) (id : SessionId) :
    (r.replaceLinks links).registration id = r.registration id := by
  unfold replaceLinks registration
  rw [HashMap.lookup_mapVal, Option.map_map]
  rfl

/-- So does `Router::route_frame`. -/
lemma registration_routeFrame (r : Router) (sender : SessionId) (frame : List UInt8)
    (id : SessionId) : (r.routeFrame sender frame).2.registration id = r.registration id := by
  obtain ⟨f, eq⟩ := lookup_routeFrame r sender frame id
  rw [registration, eq, Option.map_map]
  rfl

/-- Unregistering some sessions forgets these. -/
lemma registration_unregisterAll (r : Router) (ids : List SessionId) (id : SessionId) :
    (ids.foldl unregister r).registration id = if id ∈ ids then none else r.registration id := by
  induction ids generalizing r with
  | nil => rfl
  | cons first rest ih =>
    rw [List.foldl_cons, ih, registration_unregister]
    by_cases last : id ∈ rest
    · rw [if_pos last, if_pos (List.mem_cons_of_mem _ last)]
    · rw [if_neg last]
      by_cases same : id = first
      · rw [if_pos same, if_pos (same ▸ List.mem_cons_self)]
      · rw [if_neg same, if_neg (fun mem => (List.mem_cons.1 mem).elim same last)]

/-- `Router::contains` asks for a registration. -/
lemma contains_iff (r : Router) (id : SessionId) :
    r.contains id = true ↔ r.registration id ≠ none := by
  rw [contains, decide_eq_true_iff, registration, Ne, Option.map_eq_none_iff, AList.lookup_eq_none,
    not_not]

end Routing.Router

namespace Server
open Config Crypto HashMap Interface Protocol Routing

variable {P : Primitives}

/-- What the session table says of a session. -/
def identification (active : ActivePeers P) (id : SessionId) : Option (String × List IpNet) :=
  (active.lookup id).map fun peer => (peer.identity.name, peer.identity.allowedIps)

section
variable (active : ActivePeers P)

/-- The table says nothing of sessions that it does not have. -/
lemma identification_eq_none {id : SessionId} : identification active id = none ↔ id ∉ active := by
  rw [identification, Option.map_eq_none_iff, AList.lookup_eq_none]

/-- The table afterwards has the same sessions, and each kept its identity. -/
def SameSessions (active' : ActivePeers P) : Prop :=
  active'.keys = active.keys ∧ Derives active active'

variable {active} {active' : ActivePeers P}

/-- Such a table says the same of each session. -/
lemma SameSessions.identification (same : SameSessions active active') (id : SessionId) :
    identification active' id = identification active id := by
  cases found' : active'.lookup id with
  | none =>
    have gone : id ∉ active := by
      rw [AList.lookup_eq_none, AList.mem_keys, same.1, ← AList.mem_keys] at found'
      exact found'
    rw [(identification_eq_none active).2 gone, Server.identification, found', Option.map_none]
  | some peer' =>
    obtain ⟨peer, found, keeps⟩ := same.2 id peer' found'
    rw [Server.identification, Server.identification, found, found', Option.map_some,
      Option.map_some, keeps.identity]

lemma SameSessions.refl (active : ActivePeers P) : SameSessions active active :=
  ⟨rfl, .refl active⟩

lemma SameSessions.trans {active'' : ActivePeers P}
    (h : SameSessions active active') (h' : SameSessions active' active'') :
    SameSessions active active'' :=
  ⟨h'.1.trans h.1, h.2.trans h'.2⟩

/-- Sending keeps the sessions. -/
lemma SameSessions.of_resumed (h : Resumed active active') : SameSessions active active' :=
  ⟨h.keys, h.derives⟩

/-- So does an update of an entry that keeps its identity. -/
lemma SameSessions.modify (id : SessionId) {f : ActivePeer P → ActivePeer P}
    (keeps : ∀ peer, active.lookup id = some peer → peer.Keeps (f peer)) :
    SameSessions active (HashMap.modify id f active) :=
  ⟨keys_mapVal _ _, .modify id keeps⟩

end

section
variable (active : ActivePeers P) (setup : Setup) (env : Env)

/-- `route_inbound` keeps the registrations. -/
lemma registration_routeInbound (router : Router) (sender : SessionId) (kind : PacketKind)
    (payload : List UInt8) (wireBytes : Nat) (id : SessionId) :
    (routeInbound setup env router active sender kind payload wireBytes).1.registration id =
      router.registration id := by
  rw [routeInbound_router]
  split
  · exact router.registration_routeFrame sender payload id
  · rfl

end

/-- A lookup finds the first pair in iteration order. -/
lemma find?_toPairs (active : ActivePeers P) (id : SessionId) :
    (active.toPairs.find? fun entry => decide (entry.1 = id)).map Prod.snd =
      active.lookup id := by
  cases listed : active.toPairs.find? fun entry => decide (entry.1 = id) with
  | none =>
    rw [Option.map_none, eq_comm, AList.lookup_eq_none]
    intro mem
    obtain ⟨peer, found⟩ := mem_iff_lookup.1 mem
    have other := List.find?_eq_none.1 listed (id, peer) (mem_toPairs.2 found)
    exact other (decide_eq_true rfl)
  | some entry =>
    have own := List.find?_some listed
    obtain rfl : entry.1 = id := of_decide_eq_true own
    rw [Option.map_some, mem_toPairs.1 (List.mem_of_find?_eq_some listed)]

/-- `register_new_peers` adds the sessions the router lacks. -/
lemma registration_registerNewPeers (router : Router) (active : ActivePeers P) (id : SessionId) :
    (registerNewPeers router active).registration id =
      (router.registration id).or (identification active id) := by
  rw [identification, ← find?_toPairs, registerNewPeers, Option.map_map]
  generalize active.toPairs = entries
  induction entries generalizing router with
  | nil => rw [List.foldl_nil, List.find?_nil, Option.map_none, Option.or_none]
  | cons entry rest ih =>
    rw [List.foldl_cons, ih, List.find?_cons]
    by_cases own : entry.1 = id
    · -- a session that is known now hides its later entries
      subst own
      rw [decide_eq_true rfl]
      cases known : router.contains entry.1 with
      | true =>
        obtain ⟨x, registered⟩ := Option.ne_none_iff_exists'.1 ((router.contains_iff _).1 known)
        simp only [if_true, registered, Option.some_or]
      | false =>
        have unknown : router.registration entry.1 = none := by
          by_contra registered
          rw [(router.contains_iff _).2 registered] at known
          cases known
        simp only [Bool.false_eq_true, if_false, Router.registration_register, if_true,
          Option.some_or, unknown, Option.none_or]
        rfl
    · rw [decide_eq_false own]
      congr 1
      split
      · rfl
      · rw [Router.registration_register, if_neg (Ne.symm own)]

/-! ### Installing a session -/

section
variable {active : ActivePeers P} {identity : PeerIdentity}
  {session : ProtectedSession P} {endpoint : SocketAddr} {gracePeriod rxRate now : Nat}

/-- `same_peer` compares names and addresses. -/
lemma samePeer_iff {a b : PeerIdentity} :
    samePeer a b = true ↔ (a.name, a.allowedIps) = (b.name, b.allowedIps) := by
  rw [samePeer, decide_eq_true_iff, Prod.mk.injEq]

/-- An installation evicts the other sessions of its peer. -/
lemma mem_evicted {id : SessionId} :
    id ∈ (install active identity session endpoint gracePeriod rxRate now).2 ↔
      id ≠ session.sessionId ∧
        identification active id = some (identity.name, identity.allowedIps) := by
  have evicted : (install active identity session endpoint gracePeriod rxRate now).2 =
      (active.toPairs.filter fun entry =>
        decide (entry.1 ≠ session.sessionId) && samePeer entry.2.identity identity).map Prod.fst := by
    unfold install
    simp only
    split
    · rfl
    · rfl
  rw [evicted, List.mem_map]
  refine ⟨?_, ?_⟩
  · intro mem
    obtain ⟨entry, mem, rfl⟩ := mem
    obtain ⟨mem, stale⟩ := List.mem_filter.1 mem
    obtain ⟨other, same⟩ := Bool.and_eq_true_iff.1 stale
    refine ⟨of_decide_eq_true other, ?_⟩
    rw [identification, mem_toPairs.1 mem, Option.map_some, samePeer_iff.1 same]
  · intro h
    obtain ⟨other, same⟩ := h
    obtain ⟨peer, found, same⟩ := Option.map_eq_some_iff.1 same
    refine ⟨(id, peer), List.mem_filter.2 ⟨mem_toPairs.2 found, ?_⟩, rfl⟩
    rw [decide_eq_true other, samePeer_iff.2 same]
    rfl

/-- After an installation: the new session, and those not evicted. -/
lemma identification_install (id : SessionId) :
    identification (install active identity session endpoint gracePeriod rxRate now).1 id =
      if id = session.sessionId then some (identity.name, identity.allowedIps)
      else if identification active id = some (identity.name, identity.allowedIps) then none
      else identification active id := by
  by_cases own : id = session.sessionId
  · subst own
    obtain ⟨peer, found, same⟩ := lookup_install_self active identity session endpoint gracePeriod
      rxRate now
    rw [if_pos rfl, identification, found, Option.map_some, same]
  · rw [if_neg own]
    have retained : (install active identity session endpoint gracePeriod rxRate now).1.lookup id =
        (active.lookup id).filter fun peer => !samePeer peer.identity identity := by
      unfold install
      simp only
      split
      · rw [lookup_insert_eq, if_neg own, lookup_retain, decide_eq_true own]
        rfl
      · rw [lookup_insert_eq, if_neg own, lookup_retain, decide_eq_true own]
        rfl
    rw [identification, retained, identification]
    cases active.lookup id with
    | none => rfl
    | some peer =>
      cases same : samePeer peer.identity identity with
      | true =>
        rw [Option.filter_some, same, Option.map_some, samePeer_iff.1 same, if_pos rfl]
        rfl
      | false =>
        have other : ¬ some (peer.identity.name, peer.identity.allowedIps) =
            some (identity.name, identity.allowedIps) := by
          intro eq
          rw [samePeer_iff.2 (Option.some.inj eq)] at same
          cases same
        rw [Option.filter_some, same, Option.map_some, if_neg other]
        rfl

end

namespace ServerLoop

/-- Of an id both tables say what they said before, or nothing. -/
def Parallel (s s' : ServerLoop P) : Prop :=
  ∀ id, identification s'.active id = identification s.active id ∧
      s'.router.registration id = s.router.registration id ∨
    identification s'.active id = none ∧ s'.router.registration id = none

variable {setup : Setup} {env : Env} {s s' s'' : ServerLoop P}

lemma Parallel.refl (s : ServerLoop P) : s.Parallel s :=
  fun _ => .inl ⟨rfl, rfl⟩

lemma Parallel.trans (h : s.Parallel s') (h' : s'.Parallel s'') : s.Parallel s'' := by
  intro id
  obtain ⟨active, router⟩ | gone := h' id
  · rw [active, router]
    exact h id
  · exact .inr gone

/-- Same sessions, same registrations. -/
lemma Parallel.of_same (same : SameSessions s.active s'.active)
    (router : ∀ id, s'.router.registration id = s.router.registration id) : s.Parallel s' :=
  fun id => .inl ⟨same.identification id, router id⟩

/-- Sessions that both tables drop. -/
lemma Parallel.drop (gone : SessionId → Prop) [DecidablePred gone]
    (active : ∀ id, identification s'.active id = if gone id then none else identification s.active id)
    (router : ∀ id, s'.router.registration id = if gone id then none else s.router.registration id) :
    s.Parallel s' := by
  intro id
  rw [active, router]
  split
  · exact .inr ⟨rfl, rfl⟩
  · exact .inl ⟨rfl, rfl⟩

/-- Erasing some sessions forgets these. -/
lemma identification_eraseAll (active : ActivePeers P) (ids : List SessionId) (id : SessionId) :
    identification (ids.foldl (fun active id => active.erase id) active) id =
      if id ∈ ids then none else identification active id := by
  induction ids generalizing active with
  | nil => rfl
  | cons first rest ih =>
    rw [List.foldl_cons, ih]
    by_cases last : id ∈ rest
    · rw [if_pos last, if_pos (List.mem_cons_of_mem _ last)]
    · rw [if_neg last, identification, lookup_erase_eq]
      by_cases same : id = first
      · rw [if_pos same, if_pos (same ▸ List.mem_cons_self)]
        rfl
      · rw [if_neg same, if_neg (fun mem => (List.mem_cons.1 mem).elim same last)]
        rfl

/-- Idle sessions leave both tables. -/
lemma parallel_sweepIdle (s : ServerLoop P) (now : Nat) : s.Parallel (s.sweepIdle setup now) := by
  unfold sweepIdle
  split
  · exact .refl s
  · exact .drop (· ∈ _) (identification_eraseAll s.active _) (s.router.registration_unregisterAll _)

/-- A change of the peers drops all sessions from both. -/
lemma parallel_dropSessions (s : ServerLoop P) : s.Parallel s.dropSessions.1 := by
  refine .drop (· ∈ s.active.keys) ?_ (s.router.registration_unregisterAll _)
  intro id
  split
  · rfl
  · next absent => exact ((identification_eq_none s.active).2 absent).symm

/-- `reload_config` changes the tables together. -/
lemma parallel_applyConfig (s : ServerLoop P) (next : ServerConfig) (identities : List PeerIdentity)
    (now : Nat) : s.Parallel (s.applyConfig next identities now).1 := by
  have links : ∀ s : ServerLoop P, s.Parallel (s.applyLinks next) := by
    intro s
    unfold applyLinks
    split
    · exact .of_same (.refl _) (s.router.registration_replaceLinks _)
    · exact .refl s
  have limits : ∀ s : ServerLoop P, s.Parallel (s.applyLimits next now) := by
    intro s
    unfold applyLimits
    split
    · exact .of_same ⟨keys_mapVal _ _, .mapVal fun _ _ => ⟨rfl, rfl, rfl, rfl⟩⟩ fun _ => rfl
    · exact .refl s
  unfold applyConfig
  cases s.authChanged next with
  | false => exact (links s).trans (limits _)
  | true => exact ((parallel_dropSessions s).trans (links _)).trans (limits _)

/-- An acknowledgment leaves the tables alone. -/
lemma parallel_acknowledgeFinish (s : ServerLoop P) (peer : SocketAddr) (id : SessionId) :
    s.Parallel (s.acknowledgeFinish setup env peer id).1 := by
  obtain ⟨_, _, eq⟩ := acknowledgeFinish_frame setup env s peer id
  exact .of_same (.of_resumed (acknowledgeFinish_sends setup env s peer id).table) fun _ => by rw [eq]

/-- A keepalive keeps the sessions. -/
lemma onKeepalive_keys (peer : SocketAddr) (packet : Packet) :
    (s.onKeepalive env peer packet).1.active.keys = s.active.keys := by
  cases found : s.active.lookup packet.header.sessionId with
  | none => simp only [onKeepalive, found]
  | some current => exact (onKeepalive_sending env s found).keys.trans (keys_mapVal _ _)

/-- Data may close its session, in both tables. -/
lemma parallel_onData (s : ServerLoop P) (peer : SocketAddr) (packet : Packet) (wireBytes : Nat) :
    s.Parallel (s.onData setup env peer packet wireBytes).1 := by
  unfold onData
  cases found : s.active.lookup packet.header.sessionId with
  | none =>
    simp only [found]
    exact .refl s
  | some current =>
    cases opened : current.session.openPacket packet env.clock.instant with
    | mk result session =>
      have updated : ∀ f : ActivePeer P → ActivePeer P, (∀ p, (f p).identity = p.identity) →
          (∀ p, (f p).session = session) →
          SameSessions s.active (HashMap.modify packet.header.sessionId f s.active) :=
        fun f identity opens => ⟨keys_mapVal _ _, derives_opened found opened identity opens⟩
      cases result with
      | error e =>
        simp only [found, opened]
        exact .of_same (updated _ (fun _ => rfl) fun _ => rfl) fun _ => rfl
      | ok plaintext =>
        simp only [found, opened]
        have received := updated (fun p => { p with session := session, lastRx := env.clock.instant })
          (fun _ => rfl) fun _ => rfl
        split
        · refine .drop (· = packet.header.sessionId) ?_ ?_
          · intro id
            rw [identification, lookup_erase_eq]
            split
            · rfl
            · exact received.identification id
          · exact fun id => s.router.registration_unregister _ id
        · split
          · exact .of_same received fun _ => rfl
          · refine .of_same ((received.trans ?_).trans
              (.of_resumed (routeInbound_spec _ setup env _ _ _ _ _).1.toResumed))
              fun id => registration_routeInbound _ setup env _ _ _ _ _ id
            exact .modify _ fun p _ => ⟨rfl, rfl, rfl, rfl⟩

/-- What a round does to the two tables; a finish registers new peers. -/
inductive Rounds (setup : Setup) (env : Env) (s s' : ServerLoop P) : Prop where
  | parallel (h : s.Parallel s')
  | refused (t : ServerLoop P) (h : t.Parallel s') (active : t.active = s.active)
      (router : t.router = registerNewPeers s.router s.active)
  | completed (peer : SocketAddr) (packet : Packet) (state : PendingHandshake P)
      (session : ProtectedSession P) (remote : Option (Bytes 32)) (identity : PeerIdentity)
      (completes : Completes setup.parser s.pending peer packet env.clock state session remote identity)
      (h : (installed setup env s peer packet identity session).Parallel s')

/-- Every round of the loop. -/
lemma rounds_step (setup : Setup) (s : ServerLoop P) (event : Event × Env) :
    s.Rounds setup event.2 (step setup s event).1 := by
  have round := round_step setup s event
  generalize step setup s event = result at round
  cases round with
  | idle recvErrors => exact .parallel (.refl s)
  | stop recvErrors =>
    exact .parallel (.of_same (.of_resumed (sendEmpty_sends s.active .close _).table) fun _ => rfl)
  | reload candidate dnsReplaced =>
    obtain same | ⟨next, identities, _, _, _, applied⟩ :=
      reloadConfig_cases setup s candidate dnsReplaced event.2.clock.instant
    · rw [same]
      exact .parallel (.refl s)
    · rw [applied]
      exact .parallel (parallel_applyConfig s next identities _)
  | retry => exact .parallel (.refl s)
  | sweep => exact .parallel (parallel_sweepIdle s _)
  | keepalives =>
    exact .parallel (.of_same (.of_resumed (sendEmpty_sends s.active .keepalive _).table) fun _ => rfl)
  | delay id delay =>
    exact .parallel (.of_same (.modify id fun _ _ => ⟨rfl, rfl, rfl, rfl⟩) fun _ => rfl)
  | outbound kind payload targets =>
    exact .parallel (.of_same
      (.of_resumed (sendToAll_sends s.active setup event.2 kind payload targets 0).table) fun _ => rfl)
  | initiation peer packet =>
    obtain ⟨_, _, eq⟩ := onInitiation_frame setup event.2 { s with recvErrors := 0 } peer packet
    rw [eq]
    exact .parallel (.refl s)
  | finish peer packet arrives first =>
    obtain ⟨pending, _, eq⟩ | ⟨state, session, remote, identity, completes, eq⟩ :=
      onFinish_cases setup event.2 { s with recvErrors := 0 } peer packet
    · rw [eq]
      exact .refused _ (parallel_acknowledgeFinish _ peer _) rfl rfl
    · rw [eq]
      exact .completed peer packet state session remote identity completes
        (parallel_acknowledgeFinish _ peer _)
  | rekey peer packet =>
    obtain ⟨_, eq⟩ := onRekey_frame event.2 { s with recvErrors := 0 } peer packet
    rw [eq]
    exact .parallel (.refl s)
  | keepalive peer packet =>
    obtain ⟨_, eq⟩ := onKeepalive_frame event.2 { s with recvErrors := 0 } peer packet
    refine .parallel (.of_same ⟨onKeepalive_keys peer packet, ?_⟩ fun id => by rw [eq])
    exact (calm_onKeepalive event.2 _ peer packet).table
  | data peer packet wireBytes =>
    exact .parallel (parallel_onData { s with recvErrors := 0 } peer packet wireBytes)

/-- Router and table say the same, and a peer has one session. -/
structure Matched (s : ServerLoop P) : Prop where
  registered : ∀ id, s.router.registration id = identification s.active id
  unique : ∀ id id' peer, identification s.active id = some peer →
    identification s.active id' = some peer → id = id'

/-- Changes of both tables together keep them matched. -/
lemma Matched.of_parallel (h : s.Matched) (parallel : s.Parallel s') : s'.Matched := by
  refine ⟨?_, ?_⟩
  · intro id
    obtain ⟨active, router⟩ | ⟨active, router⟩ := parallel id
    · rw [active, router, h.registered]
    · rw [active, router]
  · intro id id' peer found found'
    obtain ⟨active, _⟩ | ⟨gone, _⟩ := parallel id
    · obtain ⟨active', _⟩ | ⟨gone, _⟩ := parallel id'
      · exact h.unique id id' peer (active ▸ found) (active' ▸ found')
      · cases gone.symm.trans found'
    · cases gone.symm.trans found

variable {drawn : SessionId → Prop}

/-- What completes has the identity of the session it replaces. -/
lemma Known.replaced (h : s.Known drawn) {peer : SocketAddr} {packet : Packet} {clock : Clock}
    {state : PendingHandshake P} {session : ProtectedSession P} {remote : Option (Bytes 32)}
    {identity : PeerIdentity}
    (completes : Completes setup.parser s.pending peer packet clock state session remote identity) :
    identification s.active session.sessionId = none ∨
      identification s.active session.sessionId = some (identity.name, identity.allowedIps) := by
  rw [h.sessionId_of_completes completes]
  obtain ⟨_, _, ⟨_, absent⟩ | ⟨_, known, source, same⟩⟩ := h.pending _ state completes.found
  · exact .inl ((identification_eq_none s.active).2 absent)
  · have finished := completes.identity
    rw [source] at finished
    obtain rfl := Option.some.inj finished
    cases found : s.active.lookup packet.header.sessionId with
    | none =>
      left
      rw [identification, found, Option.map_none]
    | some current =>
      right
      rw [identification, found, Option.map_some, same current found]

lemma installed_router (peer : SocketAddr) (packet : Packet) (identity : PeerIdentity)
    (session : ProtectedSession P) : (installed setup env s peer packet identity session).router =
      registerNewPeers ((install s.active identity session peer setup.rekeyGracePeriod
        setup.rxRateBytesPerSec env.clock.instant).2.foldl Router.unregister s.router)
        (install s.active identity session peer setup.rekeyGracePeriod setup.rxRateBytesPerSec
          env.clock.instant).1 :=
  rfl

lemma installed_active (peer : SocketAddr) (packet : Packet) (identity : PeerIdentity)
    (session : ProtectedSession P) : (installed setup env s peer packet identity session).active =
      (install s.active identity session peer setup.rekeyGracePeriod setup.rxRateBytesPerSec
        env.clock.instant).1 :=
  rfl

/-- So does a completed handshake. -/
lemma Matched.installed (h : s.Matched) (known : s.Known drawn) {peer : SocketAddr}
    {packet : Packet} {state : PendingHandshake P} {session : ProtectedSession P}
    {remote : Option (Bytes 32)} {identity : PeerIdentity}
    (completes : Completes setup.parser s.pending peer packet env.clock state session remote
      identity) : (installed setup env s peer packet identity session).Matched := by
  have replaced := known.replaced completes
  refine ⟨?_, ?_⟩
  · intro id
    rw [installed_router, installed_active, registration_registerNewPeers,
      Router.registration_unregisterAll, h.registered]
    by_cases evicted : id ∈ (install s.active identity session peer setup.rekeyGracePeriod
      setup.rxRateBytesPerSec env.clock.instant).2
    · rw [if_pos evicted, Option.none_or]
    · rw [if_neg evicted, identification_install]
      by_cases own : id = session.sessionId
      · subst own
        rw [if_pos rfl]
        obtain new | old := replaced
        · rw [new, Option.none_or]
        · rw [old, Option.some_or]
      · have other : ¬ identification s.active id = some (identity.name, identity.allowedIps) :=
          fun same => evicted (mem_evicted.2 ⟨own, same⟩)
        rw [if_neg own, if_neg other, Option.or_self]
  · intro id id' x found found'
    rw [installed_active, identification_install] at found found'
    -- the new session is the only one with its identity, and the others are from before
    split at found
    · next own =>
      cases found
      split at found'
      · next own' => exact own.trans own'.symm
      · split at found'
        · cases found'
        · next other => exact absurd found' other
    · split at found
      · cases found
      · next other =>
        split at found'
        · cases found'
          exact absurd found other
        · split at found'
          · cases found'
          · exact h.unique id id' x found found'

/-- So does every round. -/
lemma Matched.step (h : s.Matched) (known : s.Known drawn) (event : Event × Env) :
    (ServerLoop.step setup s event).1.Matched := by
  cases rounds_step setup s event with
  | parallel parallel => exact h.of_parallel parallel
  | refused t parallel active router =>
    refine Matched.of_parallel ⟨?_, ?_⟩ parallel
    · intro id
      rw [router, active, registration_registerNewPeers, h.registered, Option.or_self]
    · rw [active]
      exact h.unique
  | completed peer packet state session remote identity completes parallel =>
    exact (h.installed known completes).of_parallel parallel

/-- The tables match in every state of a run. -/
lemma matched_run {setup : Setup} (config : ServerConfig) (identities : List PeerIdentity)
    (ca : Option CertificateAuthorityConfig) {events : List (Event × Env)}
    (fresh : FreshDraws events) :
    ((start P config identities ca).after setup events).Matched := by
  induction events using List.reverseRecOn with
  | nil =>
    refine ⟨fun id => rfl, ?_⟩
    intro id id' peer found
    cases found
  | append_singleton events event ih =>
    rw [after_concat]
    exact (ih fresh.init).step (known_run config identities ca fresh.init) event

/-- The same sessions, names and addresses, and no two of one peer. -/
structure InStep (s : ServerLoop P) : Prop where
  sessions : ∀ id, id ∈ s.router.peers ↔ id ∈ s.active
  entries : ∀ id peer, s.active.lookup id = some peer →
    ∃ entry, s.router.peers.lookup id = some entry ∧ entry.name = peer.identity.name ∧
      entry.allowedIps = peer.identity.allowedIps
  distinct : ∀ id id' peer peer', s.active.lookup id = some peer → s.active.lookup id' = some peer' →
    id ≠ id' → samePeer peer.identity peer'.identity = false

/-- Matched tables are in step. -/
lemma Matched.inStep (h : s.Matched) : s.InStep := by
  refine ⟨?_, ?_, ?_⟩
  · intro id
    rw [← not_iff_not, ← identification_eq_none, ← h.registered, Router.registration,
      Option.map_eq_none_iff, AList.lookup_eq_none]
  · intro id peer found
    have registered := h.registered id
    rw [identification, found, Option.map_some] at registered
    obtain ⟨entry, known, same⟩ := Option.map_eq_some_iff.1 registered
    obtain ⟨name, allowedIps⟩ := Prod.mk.inj same
    exact ⟨entry, known, name, allowedIps⟩
  · intro id id' peer peer' found found' other
    rw [← Bool.not_eq_true, samePeer_iff]
    intro same
    refine other (h.unique id id' _ (Option.map_eq_some_iff.2 ⟨peer, found, rfl⟩) ?_)
    exact Option.map_eq_some_iff.2 ⟨peer', found', same.symm⟩

/-- In every state of every run session table and router are in step. -/
theorem inStep_run (setup : Setup) (config : ServerConfig) (identities : List PeerIdentity)
    (ca : Option CertificateAuthorityConfig) (events : List (Event × Env))
    (fresh : FreshDraws events) : ((start P config identities ca).after setup events).InStep :=
  (matched_run config identities ca fresh).inStep

/-- After a handshake and a rekey the session is in both tables. -/
theorem inStep_run_rekeyed :
    (afterOpening [finishing, rekeying, rekeyed]).active.keys = [Trace.drawnId] ∧
      (afterOpening [finishing, rekeying, rekeyed]).InStep := by
  refine ⟨by decide +kernel, ?_⟩
  exact inStep_run _ _ _ _ _ (fresh_quietly opening [finishing, rekeying, rekeyed])

end ServerLoop

end Server
end Rvpn
