import Rvpn.Server.Tunnel

/-!
# What the loop does to its tables

Every part of the server loop except the installation of a finished handshake treats the table of
active sessions alike: entries may go, and those that stay keep their identity, session id, key
phase and keys (`Derives`). The functions that send only move send counters (`Resumed`), and put out
packets that a session of the table sealed (`OnlySends`).
-/

namespace Rvpn.Server
open Config Crypto HashMap Interface Protocol Routing

variable {P : Primitives}

/-- The parts of an active peer that only a finished handshake can change. -/
structure ActivePeer.Keeps (peer peer' : ActivePeer P) : Prop where
  identity : peer'.identity = peer.identity
  sessionId : peer'.session.sessionId = peer.session.sessionId
  keyPhase : peer'.session.keyPhase = peer.session.keyPhase
  keys : peer'.session.keys = peer.session.keys

lemma ActivePeer.Keeps.refl (peer : ActivePeer P) : peer.Keeps peer :=
  ⟨rfl, rfl, rfl, rfl⟩

lemma ActivePeer.Keeps.trans {a b c : ActivePeer P} (h : a.Keeps b) (h' : b.Keeps c) : a.Keeps c :=
  ⟨h'.identity.trans h.identity, h'.sessionId.trans h.sessionId, h'.keyPhase.trans h.keyPhase,
    h'.keys.trans h.keys⟩

instance : Std.Refl (ActivePeer.Keeps (P := P)) :=
  ⟨.refl⟩

instance : IsTrans (ActivePeer P) ActivePeer.Keeps :=
  ⟨fun _ _ _ => .trans⟩

/-- Every entry of the second table comes from the first's under its id. -/
def DerivesBy (R : ActivePeer P → ActivePeer P → Prop) (active active' : ActivePeers P) : Prop :=
  ∀ id peer', active'.lookup id = some peer' → ∃ peer, active.lookup id = some peer ∧ R peer peer'

namespace DerivesBy
variable {R : ActivePeer P → ActivePeer P → Prop} {active active' active'' : ActivePeers P}

lemma refl [Std.Refl R] (active : ActivePeers P) : DerivesBy R active active :=
  fun _ peer found => ⟨peer, found, Std.Refl.refl peer⟩

lemma trans [IsTrans (ActivePeer P) R] (h : DerivesBy R active active')
    (h' : DerivesBy R active' active'') : DerivesBy R active active'' := by
  intro id peer'' found
  obtain ⟨peer', found', kept'⟩ := h' id peer'' found
  obtain ⟨peer, found, kept⟩ := h id peer' found'
  exact ⟨peer, found, IsTrans.trans _ _ _ kept kept'⟩

lemma modify [Std.Refl R] (id : SessionId) {f : ActivePeer P → ActivePeer P}
    (keeps : ∀ peer, active.lookup id = some peer → R peer (f peer)) :
    DerivesBy R active (HashMap.modify id f active) := by
  intro id' peer' found
  rw [lookup_modify] at found
  split at found
  · next same =>
    subst same
    obtain ⟨peer, found', rfl⟩ := Option.map_eq_some_iff.1 found
    exact ⟨peer, found', keeps peer found'⟩
  · exact ⟨peer', found, Std.Refl.refl peer'⟩

lemma modify_both [Std.Refl R] (id : SessionId) {f g : ActivePeer P → ActivePeer P}
    (related : ∀ peer, active.lookup id = some peer → R (f peer) (g peer)) :
    DerivesBy R (HashMap.modify id f active) (HashMap.modify id g active) := by
  intro id' peer' found
  rw [lookup_modify] at found ⊢
  split at found
  · next same =>
    subst same
    obtain ⟨peer, before, rfl⟩ := Option.map_eq_some_iff.1 found
    rw [if_pos rfl, before]
    exact ⟨f peer, rfl, related peer before⟩
  · next other =>
    rw [if_neg other]
    exact ⟨peer', found, Std.Refl.refl peer'⟩

lemma mapVal {f : SessionId → ActivePeer P → ActivePeer P}
    (keeps : ∀ id (peer : ActivePeer P), R peer (f id peer)) :
    DerivesBy R active (HashMap.mapVal f active) := by
  intro id peer' found
  rw [lookup_mapVal] at found
  obtain ⟨peer, found', rfl⟩ := Option.map_eq_some_iff.1 found
  exact ⟨peer, found', keeps id peer⟩

lemma erase [Std.Refl R] (id : SessionId) : DerivesBy R active (active.erase id) := by
  intro id' peer' found
  rw [lookup_erase_eq] at found
  split at found
  · cases found
  · exact ⟨peer', found, Std.Refl.refl peer'⟩

lemma eraseAll [Std.Refl R] [IsTrans (ActivePeer P) R] (ids : List SessionId) :
    DerivesBy R active (ids.foldl (fun active id => active.erase id) active) := by
  induction ids generalizing active with
  | nil => exact .refl active
  | cons id rest ih => exact (DerivesBy.erase id).trans ih

lemma empty : DerivesBy R active ∅ := by
  intro id peer' found
  cases found

end DerivesBy

/-- Every entry of the second table is one of the first with its session. -/
def Derives (active active' : ActivePeers P) : Prop :=
  ∀ id peer', active'.lookup id = some peer' →
    ∃ peer, active.lookup id = some peer ∧ peer.Keeps peer'

namespace Derives
variable {active active' active'' : ActivePeers P}

lemma refl (active : ActivePeers P) : Derives active active :=
  DerivesBy.refl active

lemma trans (h : Derives active active') (h' : Derives active' active'') :
    Derives active active'' :=
  DerivesBy.trans h h'

lemma modify (id : SessionId) {f : ActivePeer P → ActivePeer P}
    (keeps : ∀ peer, active.lookup id = some peer → peer.Keeps (f peer)) :
    Derives active (HashMap.modify id f active) :=
  DerivesBy.modify id keeps

lemma mapVal {f : SessionId → ActivePeer P → ActivePeer P}
    (keeps : ∀ id (peer : ActivePeer P), peer.Keeps (f id peer)) :
    Derives active (HashMap.mapVal f active) :=
  DerivesBy.mapVal keeps

lemma erase (id : SessionId) : Derives active (active.erase id) :=
  DerivesBy.erase id

lemma empty : Derives active ∅ :=
  DerivesBy.empty

end Derives

/-- The same session, up to its send counter. -/
structure ActivePeer.Resumes (peer peer' : ActivePeer P) : Prop where
  identity : peer'.identity = peer.identity
  session : ∃ n, peer'.session = { peer.session with nextSendSequence := n }

variable {peer peer' : ActivePeer P}

lemma ActivePeer.Resumes.of_eq (identity : peer'.identity = peer.identity)
    (session : peer'.session = peer.session) : peer.Resumes peer' :=
  ⟨identity, peer.session.nextSendSequence, session⟩

lemma ActivePeer.Resumes.of_seal {kind : PacketKind} {plaintext : List UInt8} {packet : Packet}
    {session : ProtectedSession P}
    (sealed : peer.session.sealPacket kind plaintext = (.ok packet, session)) :
    peer.Resumes { peer with session := session } := by
  obtain ⟨_, _, _, _, rfl⟩ := ProtectedSession.sealPacket_ok sealed
  exact ⟨rfl, _, rfl⟩

instance : Std.Refl (ActivePeer.Resumes (P := P)) where
  refl _ := .of_eq rfl rfl

instance : IsTrans (ActivePeer P) ActivePeer.Resumes where
  trans _ _ _ h h' := by
    obtain ⟨identity, n, session⟩ := h
    obtain ⟨identity', n', session'⟩ := h'
    refine ⟨identity'.trans identity, n', ?_⟩
    rw [session', session]

lemma ActivePeer.Resumes.keeps (h : peer.Resumes peer') : peer.Keeps peer' := by
  obtain ⟨identity, n, session⟩ := h
  refine ⟨identity, ?_, ?_, ?_⟩
  · rw [session]
  · rw [session]
  · rw [session]

/-- The sessions are those of the first table, up to send counters. -/
abbrev CarriesOver (active active' : ActivePeers P) : Prop :=
  DerivesBy ActivePeer.Resumes active active'

/-- The same sessions, up to their send counters. -/
structure Resumed (active active' : ActivePeers P) : Prop where
  keys : active'.keys = active.keys
  carries : CarriesOver active active'

namespace Resumed
variable {active active' active'' : ActivePeers P}

lemma refl (active : ActivePeers P) : Resumed active active :=
  ⟨rfl, .refl active⟩

lemma trans (h : Resumed active active') (h' : Resumed active' active'') :
    Resumed active active'' :=
  ⟨h'.keys.trans h.keys, h.carries.trans h'.carries⟩

lemma modify (id : SessionId) {f : ActivePeer P → ActivePeer P}
    (resumes : ∀ peer, active.lookup id = some peer → peer.Resumes (f peer)) :
    Resumed active (HashMap.modify id f active) :=
  ⟨keys_mapVal _ _, .modify id resumes⟩

lemma touch (id : SessionId) {f : ActivePeer P → ActivePeer P}
    (identity : ∀ peer, (f peer).identity = peer.identity)
    (session : ∀ peer, (f peer).session = peer.session) :
    Resumed active (HashMap.modify id f active) :=
  .modify id fun peer _ => .of_eq (identity peer) (session peer)

lemma derives (h : Resumed active active') : Derives active active' := by
  intro id peer' found
  obtain ⟨peer, before, resumes⟩ := h.carries id peer' found
  exact ⟨peer, before, resumes.keeps⟩

lemma lookup (h : Resumed active active') {id : SessionId} {peer : ActivePeer P}
    (found : active.lookup id = some peer) :
    ∃ peer', active'.lookup id = some peer' ∧ peer.Keeps peer' := by
  have mem : id ∈ active' := by
    rw [AList.mem_keys, h.keys, ← AList.mem_keys]
    exact mem_iff_lookup.2 ⟨peer, found⟩
  obtain ⟨peer', found'⟩ := mem_iff_lookup.1 mem
  obtain ⟨before, foundBefore, keeps⟩ := h.derives id peer' found'
  rw [found] at foundBefore
  cases foundBefore
  exact ⟨peer', found', keeps⟩

end Resumed

/-- The counters of `PeerStats` that the usage history keeps. -/
inductive Counter where
  | rxPackets
  | rxPayloadBytes
  | txPackets
  | txPayloadBytes
  | droppedPackets
  deriving DecidableEq

def Counter.of : Counter → PeerStats → Nat
  | .rxPackets, stats => stats.rxPackets
  | .rxPayloadBytes, stats => stats.rxPayloadBytes
  | .txPackets, stats => stats.txPackets
  | .txPayloadBytes, stats => stats.txPayloadBytes
  | .droppedPackets, stats => stats.droppedPackets

/-- No counter goes back, as long as it is a `u64`. -/
def PeerStats.Grows (stats stats' : PeerStats) : Prop :=
  ∀ c : Counter, c.of stats ≤ u64Max → c.of stats ≤ c.of stats' ∧ c.of stats' ≤ u64Max

namespace PeerStats
variable {stats stats' stats'' : PeerStats}

lemma Grows.refl (stats : PeerStats) : stats.Grows stats :=
  fun _ bounded => ⟨Nat.le_refl _, bounded⟩

lemma Grows.trans (h : stats.Grows stats') (h' : stats'.Grows stats'') : stats.Grows stats'' := by
  intro c bounded
  obtain ⟨le, bounded'⟩ := h c bounded
  obtain ⟨le', bounded''⟩ := h' c bounded'
  exact ⟨le.trans le', bounded''⟩

lemma grows_of_added (added : ∀ c : Counter, c.of stats' = c.of stats ∨
    ∃ n, c.of stats' = saturatingAdd (c.of stats) n) : stats.Grows stats' := by
  intro c bounded
  obtain same | ⟨n, sum⟩ := added c
  · rw [same]
    exact ⟨Nat.le_refl _, bounded⟩
  · rw [sum]
    exact ⟨Nat.le_min.2 ⟨Nat.le_add_right _ n, bounded⟩, Nat.min_le_right _ _⟩

lemma grows_recordRx (payloadBytes wireBytes : Nat) :
    stats.Grows (stats.recordRx payloadBytes wireBytes) :=
  grows_of_added fun c => by cases c <;> first | exact .inl rfl | exact .inr ⟨_, rfl⟩

lemma grows_recordTx (payloadBytes wireBytes : Nat) :
    stats.Grows (stats.recordTx payloadBytes wireBytes) :=
  grows_of_added fun c => by cases c <;> first | exact .inl rfl | exact .inr ⟨_, rfl⟩

lemma grows_recordDrop : stats.Grows stats.recordDrop :=
  grows_of_added fun c => by cases c <;> first | exact .inl rfl | exact .inr ⟨_, rfl⟩

lemma grows_recordRxLimitedDrop : stats.Grows stats.recordRxLimitedDrop :=
  grows_of_added fun c => by cases c <;> first | exact .inl rfl | exact .inr ⟨_, rfl⟩

lemma grows_recordTxQueueDrop : stats.Grows stats.recordTxQueueDrop :=
  grows_of_added fun c => by cases c <;> first | exact .inl rfl | exact .inr ⟨_, rfl⟩

lemma grows_recordQueueDelay (delay : Nat) : stats.Grows (stats.recordQueueDelay delay) :=
  grows_of_added fun c => by cases c <;> exact .inl rfl

lemma grows_recordRekey : stats.Grows stats.recordRekey :=
  grows_of_added fun c => by cases c <;> exact .inl rfl

end PeerStats

/-- Identity and limiter are kept, and the counters do not go back. -/
structure ActivePeer.Accrues (peer peer' : ActivePeer P) : Prop where
  identity : peer'.identity = peer.identity
  limiter : peer'.rxLimiter = peer.rxLimiter
  stats : peer.stats.Grows peer'.stats

lemma ActivePeer.Accrues.of_eq (identity : peer'.identity = peer.identity)
    (limiter : peer'.rxLimiter = peer.rxLimiter) (stats : peer'.stats = peer.stats) :
    peer.Accrues peer' :=
  ⟨identity, limiter, stats ▸ .refl _⟩

instance : Std.Refl (ActivePeer.Accrues (P := P)) where
  refl _ := .of_eq rfl rfl rfl

instance : IsTrans (ActivePeer P) ActivePeer.Accrues where
  trans _ _ _ h h' :=
    ⟨h'.identity.trans h.identity, h'.limiter.trans h.limiter, h.stats.trans h'.stats⟩

/-- The sessions of the second table are sessions of the first that went on. -/
abbrev Accrued (active active' : ActivePeers P) : Prop :=
  DerivesBy ActivePeer.Accrues active active'

def ActivePeer.SameRate (peer peer' : ActivePeer P) : Prop :=
  peer'.rxLimiter.rateBytesPerSec = peer.rxLimiter.rateBytesPerSec

instance : Std.Refl (ActivePeer.SameRate (P := P)) where
  refl _ := rfl

instance : IsTrans (ActivePeer P) ActivePeer.SameRate where
  trans _ _ _ h h' := Eq.trans h' h

lemma rates_of_accrued {active active' : ActivePeers P} (h : Accrued active active') :
    DerivesBy ActivePeer.SameRate active active' := by
  intro id peer' found
  obtain ⟨peer, before, accrues⟩ := h id peer' found
  exact ⟨peer, before, congrArg PeerRateLimiter.rateBytesPerSec accrues.limiter⟩

/-- The same sessions, up to their send counters, policed at the same rates. -/
structure Steady (active active' : ActivePeers P) : Prop
    extends Resumed active active' where
  rates : DerivesBy ActivePeer.SameRate active active'

namespace Steady
variable {active active' active'' : ActivePeers P}

lemma refl (active : ActivePeers P) : Steady active active :=
  ⟨.refl active, .refl active⟩

lemma trans (h : Steady active active') (h' : Steady active' active'') : Steady active active'' :=
  ⟨h.toResumed.trans h'.toResumed, h.rates.trans h'.rates⟩

lemma modify (id : SessionId) {f : ActivePeer P → ActivePeer P}
    (resumes : ∀ peer, active.lookup id = some peer → peer.Resumes (f peer) ∧ peer.SameRate (f peer)) :
    Steady active (HashMap.modify id f active) :=
  ⟨.modify id fun peer found => (resumes peer found).1,
    .modify id fun peer found => (resumes peer found).2⟩

end Steady

/-- The same sessions, up to their send counters and the counters that grow. -/
structure Sending (active active' : ActivePeers P) : Prop
    extends Resumed active active' where
  accrued : Accrued active active'

namespace Sending
variable {active active' active'' : ActivePeers P}

lemma refl (active : ActivePeers P) : Sending active active :=
  ⟨.refl active, .refl active⟩

lemma trans (h : Sending active active') (h' : Sending active' active'') : Sending active active'' :=
  ⟨h.toResumed.trans h'.toResumed, h.accrued.trans h'.accrued⟩

lemma modify (id : SessionId) {f : ActivePeer P → ActivePeer P}
    (resumes : ∀ peer, active.lookup id = some peer → peer.Resumes (f peer) ∧ peer.Accrues (f peer)) :
    Sending active (HashMap.modify id f active) :=
  ⟨.modify id fun peer found => (resumes peer found).1,
    .modify id fun peer found => (resumes peer found).2⟩

lemma stats (table : ActivePeers P) (id : SessionId) {f : PeerStats → PeerStats}
    (grows : ∀ stats : PeerStats, stats.Grows (f stats)) :
    Sending table (HashMap.modify id (fun peer => { peer with stats := f peer.stats }) table) :=
  .modify id fun peer _ => ⟨.of_eq rfl rfl, rfl, rfl, grows peer.stats⟩

lemma steady (h : Sending active active') : Steady active active' :=
  ⟨h.toResumed, rates_of_accrued h.accrued⟩

end Sending

/-- What a quiet part may put out, starting from the table `active`. -/
def Output.QuietFor (active : ActivePeers P) : Output P → Prop
  | .sealed table id packet plaintext => Derives active table ∧
      ∃ peer session', table.lookup id = some peer ∧
        peer.session.sealPacket packet.header.kind plaintext = (.ok packet, session')
  | .send _ _ => True
  | .queued _ _ => True
  | .tun _ => False
  | .tap _ => False
  | .installed _ => False

/-- The sessions stay up to their send counters, and the outputs are quiet. -/
structure OnlySends (active : ActivePeers P) (result : ActivePeers P × List (Output P)) : Prop where
  table : Resumed active result.1
  outputs : ∀ o ∈ result.2, o.QuietFor active

lemma Output.QuietFor.mono {active active' : ActivePeers P} {o : Output P}
    (derives : Derives active active') (h : o.QuietFor active') : o.QuietFor active := by
  cases o with
  | sealed table id packet plaintext => exact ⟨derives.trans h.1, h.2⟩
  | send endpoint packet => trivial
  | queued endpoint packet => trivial
  | tun packet => exact h
  | tap frame => exact h
  | installed record => exact h

namespace OnlySends
variable {active active' active'' : ActivePeers P} {out out' : List (Output P)}

lemma append (h : OnlySends active (active', out)) (h' : OnlySends active' (active'', out')) :
    OnlySends active (active'', out ++ out') := by
  refine ⟨h.table.trans h'.table, ?_⟩
  intro o mem
  cases List.mem_append.1 mem with
  | inl mem => exact h.outputs o mem
  | inr mem => exact (h'.outputs o mem).mono h.table.derives

lemma send (h : OnlySends active (active', out)) {sent : List (Output P)}
    (only : ∀ o ∈ sent, ∃ endpoint packet, o = .send endpoint packet ∨ o = .queued endpoint packet) :
    OnlySends active (active', out ++ sent) := by
  refine ⟨h.table, ?_⟩
  intro o mem
  cases List.mem_append.1 mem with
  | inl mem => exact h.outputs o mem
  | inr mem =>
    obtain ⟨endpoint, packet, eq⟩ := only o mem
    cases eq with
    | inl eq =>
      subst eq
      trivial
    | inr eq =>
      subst eq
      trivial

end OnlySends

/-- The sessions stay up to their counters, and the outputs are quiet. -/
structure SteadySends (active : ActivePeers P) (result : ActivePeers P × List (Output P)) : Prop
    extends OnlySends active result where
  accrued : Accrued active result.1

namespace SteadySends
variable {active active' active'' : ActivePeers P} {out out' : List (Output P)}

lemma sending (h : SteadySends active (active', out)) : Sending active active' :=
  ⟨h.table, h.accrued⟩

lemma rates (h : SteadySends active (active', out)) : DerivesBy ActivePeer.SameRate active active' :=
  h.sending.steady.rates

lemma of_sending (h : Sending active active') : SteadySends active (active', []) :=
  ⟨⟨h.toResumed, fun _ mem => absurd mem List.not_mem_nil⟩, h.accrued⟩

lemma append (h : SteadySends active (active', out)) (h' : SteadySends active' (active'', out')) :
    SteadySends active (active'', out ++ out') :=
  ⟨h.toOnlySends.append h'.toOnlySends, h.accrued.trans h'.accrued⟩

lemma andThen (h : SteadySends active (active', out)) (h' : Sending active' active'') :
    SteadySends active (active'', out) :=
  ⟨⟨h.table.trans h'.toResumed, h.outputs⟩, h.accrued.trans h'.accrued⟩

lemma send (h : SteadySends active (active', out)) {sent : List (Output P)}
    (only : ∀ o ∈ sent, ∃ endpoint packet, o = .send endpoint packet ∨ o = .queued endpoint packet) :
    SteadySends active (active', out ++ sent) :=
  ⟨h.toOnlySends.send only, h.accrued⟩

end SteadySends

lemma keeps_openPacket {packet : Packet} {now : Nat} {result : Except SessionError (List UInt8)}
    {session : ProtectedSession P} (h : peer.session.openPacket packet now = (result, session)) :
    peer.Keeps { peer with session := session } := by
  cases result with
  | error e =>
    rw [ProtectedSession.openPacket_refused h]
    exact .refl peer
  | ok plaintext =>
    obtain ⟨_, _, opened⟩ := ProtectedSession.openPacket_ok h
    cases opened with
    | inl current =>
      obtain ⟨_, _, _, rfl⟩ := current
      exact ⟨rfl, rfl, rfl, rfl⟩
    | inr previous =>
      obtain ⟨_, _, _, _, _, _, _, rfl⟩ := previous
      exact ⟨rfl, rfl, rfl, rfl⟩

lemma maybeSendRekey_spec {packetLimit : UInt64} {timeLimit : Option Nat} {now : Nat}
    {requests : List Packet} (h : maybeSendRekey peer packetLimit timeLimit now = (peer', requests)) :
    (peer.Resumes peer' ∧ peer.Accrues peer') ∧ ∀ request ∈ requests, ∃ session,
      peer.session.sealPacket .rekey [] = (.ok request, session) := by
  unfold maybeSendRekey at h
  split at h
  · cases h
    exact ⟨⟨.of_eq rfl rfl, .of_eq rfl rfl rfl⟩, by simp⟩
  · split at h
    · cases h
      exact ⟨⟨.of_eq rfl rfl, .of_eq rfl rfl rfl⟩, by simp⟩
    · split at h
      · next failed =>
        cases h
        rw [ProtectedSession.sealPacket_refused failed]
        exact ⟨⟨.of_eq rfl rfl, .of_eq rfl rfl rfl⟩, by simp⟩
      · next request session sealed =>
        cases h
        refine ⟨⟨?_, .of_eq rfl rfl rfl⟩, fun other mem => ⟨session, by rw [List.mem_singleton.1 mem, sealed]⟩⟩
        obtain ⟨identity, session⟩ := ActivePeer.Resumes.of_seal sealed
        exact ⟨identity, session⟩

section
variable (active : ActivePeers P)

lemma sealFor_sends (id : SessionId) (kind : PacketKind) (plaintext : List UInt8) :
    SteadySends active (sealFor active id kind plaintext).2 := by
  unfold sealFor
  split
  · exact .of_sending (.refl active)
  · next peer found =>
    split
    · exact .of_sending (.refl active)
    · next packet session sealed =>
      have table : Sending active
          (HashMap.modify id (fun peer => { peer with session := session }) active) := by
        refine .modify id fun peer' found' => ?_
        rw [found] at found'
        cases found'
        exact ⟨.of_seal sealed, .of_eq rfl rfl rfl⟩
      refine ⟨⟨table.toResumed, fun o mem => ?_⟩, table.accrued⟩
      obtain rfl := List.mem_singleton.1 mem
      have kind' : packet.header.kind = kind := by
        rw [(ProtectedSession.sealPacket_ok sealed).2.2.1]
      refine ⟨.refl active, peer, session, found, ?_⟩
      rw [kind', sealed]

lemma maybeRekey_sends (setup : Setup) (id : SessionId) (now : Nat) :
    SteadySends active (maybeRekey setup active id now) := by
  unfold maybeRekey
  cases found : active.lookup id with
  | none => exact .of_sending (.refl active)
  | some peer =>
    cases out : maybeSendRekey peer setup.rekeyPacketLimit setup.rekeyTimeLimit now with
    | mk peer' requests =>
      obtain ⟨kept, sealed⟩ := maybeSendRekey_spec out
      simp only [out]
      have table : Sending active (HashMap.modify id (fun _ => peer') active) := by
        refine .modify id fun other foundOther => ?_
        rw [found] at foundOther
        cases foundOther
        exact kept
      refine ⟨⟨table.toResumed, fun o mem => ?_⟩, table.accrued⟩
      simp only [List.mem_flatMap, List.mem_cons, List.not_mem_nil, or_false] at mem
      obtain ⟨request, mem, eq⟩ := mem
      cases eq with
      | inl eq =>
        subst eq
        obtain ⟨session, sealing⟩ := sealed request mem
        have kind : request.header.kind = .rekey := by
          rw [(ProtectedSession.sealPacket_ok sealing).2.2.1]
        exact ⟨.refl active, peer, session, found, by rw [kind, sealing]⟩
      | inr eq =>
        subst eq
        trivial

lemma sendTo_sends (setup : Setup) (env : Env) (id : SessionId) (kind : PacketKind)
    (payload : List UInt8) (n : Nat) : SteadySends active (sendTo setup env active id kind payload n) := by
  unfold sendTo
  have requested := maybeRekey_sends active setup id env.clock.instant
  cases out : maybeRekey setup active id env.clock.instant with
  | mk table requests =>
    rw [out] at requested
    have sealing := sealFor_sends table id kind payload
    cases eq : sealFor table id kind payload with
    | mk packet rest =>
      obtain ⟨table', record⟩ := rest
      rw [eq] at sealing
      have both := requested.append sealing
      cases packet with
      | none =>
        simp only [eq]
        exact requested.andThen sealing.sending
      | some packet =>
        simp only [eq]
        split
        · exact both
        · split
          · refine (both.send ?_).andThen (.stats _ id fun _ => PeerStats.grows_recordTx _ _)
            intro o mem
            obtain ⟨peer, _, rfl⟩ := Option.map_eq_some_iff.1 (Option.mem_toList.1 mem)
            exact ⟨_, _, .inr rfl⟩
          · split
            · exact both.andThen (.stats _ id fun _ => PeerStats.grows_recordTxQueueDrop)
            · exact both

lemma sendToAll_sends (setup : Setup) (env : Env) (kind : PacketKind) (payload : List UInt8)
    (targets : List SessionId) (n : Nat) :
    SteadySends active (sendToAll setup env kind payload targets n active) := by
  induction targets generalizing active n with
  | nil => exact .of_sending (.refl active)
  | cons target rest ih =>
    exact (sendTo_sends active setup env target kind payload n).append (ih _ (n + 1))

lemma sendEmpty_sends (kind : PacketKind) (ids : List SessionId) :
    SteadySends active (sendEmpty kind ids active) := by
  induction ids generalizing active with
  | nil => exact .of_sending (.refl active)
  | cons id rest ih =>
    have sealing := sealFor_sends active id kind []
    unfold sendEmpty
    cases eq : sealFor active id kind [] with
    | mk packet result =>
      obtain ⟨table, record⟩ := result
      rw [eq] at sealing
      cases packet with
      | none =>
        have later := ih table
        refine ⟨⟨sealing.table.trans later.table, ?_⟩, sealing.accrued.trans later.accrued⟩
        exact fun o mem => (later.outputs o mem).mono sealing.table.derives
      | some packet =>
        refine (sealing.send ?_).append (ih table)
        intro o mem
        obtain ⟨peer, _, rfl⟩ := Option.map_eq_some_iff.1 (Option.mem_toList.1 mem)
        exact ⟨_, _, .inl rfl⟩

lemma allow_rate (limiter : PeerRateLimiter) (bytes now : Nat) :
    (limiter.allow bytes now).2.rateBytesPerSec = limiter.rateBytesPerSec := by
  unfold PeerRateLimiter.allow
  split
  · rfl
  · simp only
    split
    · rfl
    · rfl

lemma policeInbound_steady (id : SessionId) (bytes now : Nat) :
    Steady active (policeInbound active id bytes now).2 := by
  unfold policeInbound
  split
  · exact .refl active
  · next peer found =>
    have rate := allow_rate peer.rxLimiter bytes now
    have same : ∀ other, active.lookup id = some other →
        other.rxLimiter.rateBytesPerSec = peer.rxLimiter.rateBytesPerSec := by
      intro other foundOther
      rw [found] at foundOther
      cases foundOther
      rfl
    split
    · next limiter allowed =>
      rw [allowed] at rate
      have table : Steady active
          (HashMap.modify id (fun peer => { peer with rxLimiter := limiter }) active) :=
        .modify id fun other found => ⟨.of_eq rfl rfl, rate.trans (same other found).symm⟩
      exact table
    · next limiter limited =>
      rw [limited] at rate
      have table : Steady active (HashMap.modify id (fun peer =>
          { peer with rxLimiter := limiter, stats := peer.stats.recordRxLimitedDrop }) active) :=
        .modify id fun other found => ⟨.of_eq rfl rfl, rate.trans (same other found).symm⟩
      exact table

/-- The verdict of the router on an inbound payload. -/
def inboundVerdict (router : Router) (id : SessionId) (kind : PacketKind) (payload : List UInt8) :
    Verdict :=
  if kind = .dataTap then (router.routeFrame id payload).1 else router.routeIp id payload

lemma fst_eq_inboundVerdict (router : Router) (id : SessionId) (kind : PacketKind)
    (payload : List UInt8) : (if kind = .dataTap then router.routeFrame id payload
      else (router.routeIp id payload, router)).1 = inboundVerdict router id kind payload := by
  unfold inboundVerdict
  split
  · rfl
  · rfl

lemma routeInbound_router (setup : Setup) (env : Env) (router : Router) (id : SessionId)
    (kind : PacketKind) (payload : List UInt8) (wireBytes : Nat) :
    (routeInbound setup env router active id kind payload wireBytes).1 =
      if kind = .dataTap then (router.routeFrame id payload).2 else router := by
  have learned : (if kind = .dataTap then router.routeFrame id payload
      else (router.routeIp id payload, router)).2 =
      if kind = .dataTap then (router.routeFrame id payload).2 else router := by
    split
    · rfl
    · rfl
  rw [← learned]
  unfold routeInbound
  cases routed : (if kind = .dataTap then router.routeFrame id payload
      else (router.routeIp id payload, router)) with
  | mk verdict router' =>
    cases verdict with
    | drop reason => rfl
    | forward delivery =>
      simp only
      split
      · rfl
      · rfl

/-- The local device gets only what the router forwards; the rest is quiet. -/
lemma routeInbound_spec (setup : Setup) (env : Env) (router : Router) (id : SessionId)
    (kind : PacketKind) (payload : List UInt8) (wireBytes : Nat) :
    Steady active (routeInbound setup env router active id kind payload wireBytes).2.1 ∧
      ∀ o ∈ (routeInbound setup env router active id kind payload wireBytes).2.2,
        o.QuietFor active ∨ (∃ delivery, inboundVerdict router id kind payload = .forward delivery) ∧
          o ∈ if kind = .dataTap then injectFrame (P := P) setup payload
            else injectIp setup payload := by
  have verdictEq := fst_eq_inboundVerdict router id kind payload
  unfold routeInbound
  cases routed : (if kind = .dataTap then router.routeFrame id payload
      else (router.routeIp id payload, router)) with
  | mk verdict router' =>
    rw [routed] at verdictEq
    cases verdict with
    | drop reason => exact ⟨(Sending.stats _ id fun _ => PeerStats.grows_recordDrop).steady, by simp⟩
    | forward delivery =>
      have policed := policeInbound_steady active id payload.length env.clock.instant
      cases limited : policeInbound active id payload.length env.clock.instant with
      | mk passed table =>
        rw [limited] at policed
        cases passed with
        | false =>
          simp only
          exact ⟨policed, by simp⟩
        | true =>
          simp only
          -- the writes to the devices come after what was sent to the peers
          have written : ∀ {table' : ActivePeers P} result, Steady active table' →
              SteadySends table' result → Steady active result.1 ∧
                ∀ o ∈ result.2 ++ (if delivery.toLocal then
                    if kind = .dataTap then injectFrame setup payload else injectIp setup payload
                  else []),
                  o.QuietFor active ∨ (∃ delivery, inboundVerdict router id kind payload =
                      .forward delivery) ∧
                    o ∈ if kind = .dataTap then injectFrame (P := P) setup payload
                      else injectIp setup payload := by
            intro table' result recorded sent
            refine ⟨recorded.trans sent.sending.steady, ?_⟩
            intro o mem
            rcases List.mem_append.1 mem with mem | mem
            · exact .inl ((sent.outputs o mem).mono recorded.derives)
            · split at mem
              · exact .inr ⟨⟨delivery, verdictEq.symm⟩, mem⟩
              · cases mem
          refine written _ (policed.trans (Sending.stats table id fun _ =>
            PeerStats.grows_recordRx payload.length wireBytes).steady) ?_
          split
          · exact sendToAll_sends _ setup env _ _ _ 0
          · split
            · exact sendToAll_sends _ setup env _ _ _ 0
            · exact .of_sending (.refl _)

end

end Rvpn.Server
