import Rvpn.Server.Accounts

/-!
# The rate at which a peer is policed

A peer gets its inbound rate in three ways: a new session is created with the rate that the loop
computed when it started, a rekey passes the limiter on, and a reload that changes the limits
replaces all limiters. Only the last one reads the current configuration.
-/

namespace Rvpn.Server
open Config Crypto Protocol Routing

variable {P : Primitives}

namespace ServerLoop

/-- Every active peer is policed at the rate of the current configuration. -/
def Policed (s : ServerLoop P) : Prop :=
  ∀ id peer, s.active.lookup id = some peer →
    peer.rxLimiter.rateBytesPerSec = mibRate s.config.limits.rxMibPerSec

/-- Sessions are created only while the start's rate is configured. -/
def CreatesAtRate (setup : Setup) (s : ServerLoop P) (event : Event × Env) : Prop :=
  ∀ record, .installed record ∈ (step setup s event).2 → record.sessionId ∈ s.active ∨
    setup.rxRateBytesPerSec = mibRate s.config.limits.rxMibPerSec

section
variable (setup : Setup) (env : Env) (s : ServerLoop P)

lemma onData_rates (peer : SocketAddr) (packet : Packet) (wireBytes : Nat) :
    DerivesBy ActivePeer.SameRate s.active (s.onData setup env peer packet wireBytes).1.active := by
  cases found : s.active.lookup packet.header.sessionId with
  | none =>
    simp only [onData, found]
    exact .refl _
  | some current =>
    exact (rates_of_accrued (withSession_accrued s.active _ _)).trans (onData_carries setup env s found).2

inductive RateRound (now : Nat) : ServerLoop P × List (Output P) → Prop
  | kept {result : ServerLoop P × List (Output P)} (settings : s.SameSettings result.1)
      (calm : s.CalmRound result) (rates : DerivesBy ActivePeer.SameRate s.active result.1.active) :
      RateRound now result
  | reloaded (next : ServerConfig) (identities : List PeerIdentity) :
      RateRound now (s.applyConfig next identities now)
  | created {s' : ServerLoop P} {out : List (Output P)} (record : Installed) (identity : PeerIdentity)
      (session : ProtectedSession P) (peer : SocketAddr) (own : record.sessionId = session.sessionId)
      (settings : s.SameSettings s')
      (sends : SteadySends (install s.active identity session peer setup.rekeyGracePeriod
        setup.rxRateBytesPerSec now).1 (s'.active, out)) :
      RateRound now (s', .installed record :: out)

variable {setup s} in
lemma RateRound.of_sends {now : Nat} {s' : ServerLoop P} {out : List (Output P)}
    (settings : s.SameSettings s') (sends : SteadySends s.active (s'.active, out)) :
    RateRound setup s now (s', out) :=
  .kept settings (.of_onlySends sends.toOnlySends) sends.rates

/-- A `Finish` that completes creates a session; others are answered at most. -/
lemma rateRound_onFinish (peer : SocketAddr) (packet : Packet) : RateRound setup s env.clock.instant
      ({ s with recvErrors := 0 }.onFinish setup env peer packet) := by
  have received : s.SameSettings { s with recvErrors := 0 } := ⟨rfl, rfl, rfl, rfl, rfl⟩
  have settings := received.trans
    (sameSettings_onFinish setup env { s with recvErrors := 0 } peer packet)
  obtain ⟨pending, _, eq⟩ | ⟨state, session, remote, identity, _, eq⟩ :=
    onFinish_cases setup env { s with recvErrors := 0 } peer packet
  · rw [eq] at settings ⊢
    exact .of_sends settings (acknowledgeFinish_sends setup env
      { s with
        recvErrors := 0
        pending := pending
        router := registerNewPeers s.router s.active } peer _)
  · rw [eq] at settings ⊢
    exact .created _ identity session peer rfl settings (acknowledgeFinish_sends setup env
      (installed setup env { s with recvErrors := 0 } peer packet identity session) peer _)

lemma rateRound_step (event : Event × Env) :
    RateRound setup s event.2.clock.instant (step setup s event) := by
  have round := round_step setup s event
  generalize step setup s event = result at round
  have received : s.SameSettings { s with recvErrors := 0 } := ⟨rfl, rfl, rfl, rfl, rfl⟩
  have sends : ∀ {s' : ServerLoop P} {out : List (Output P)}, s.SameSettings s' →
      SteadySends s.active (s'.active, out) → RateRound setup s event.2.clock.instant (s', out) :=
    .of_sends
  cases round with
  | idle recvErrors =>
    exact .kept ⟨rfl, rfl, rfl, rfl, rfl⟩ (.refl _) (.refl _)
  | stop recvErrors =>
    exact sends ⟨rfl, rfl, rfl, rfl, rfl⟩ (sendEmpty_sends s.active .close s.active.keys)
  | reload candidate dnsReplaced =>
    obtain same | ⟨next, identities, _, _, _, applied⟩ :=
      reloadConfig_cases setup s candidate dnsReplaced event.2.clock.instant
    · rw [same]
      exact .kept (.refl s) (.refl _) (.refl _)
    · rw [applied]
      exact .reloaded next identities
  | retry =>
    refine .kept ⟨rfl, rfl, rfl, rfl, rfl⟩ (calm_sends rfl fun o mem => ?_) (.refl _)
    obtain ⟨entry, _, rfl⟩ := List.mem_map.1 mem
    exact ⟨_, _, rfl⟩
  | sweep =>
    exact .kept (sameSettings_sweepIdle ..) (.of_derives (sweepIdle_derivesBy setup s _))
      (sweepIdle_derivesBy setup s _)
  | keepalives =>
    exact sends ⟨rfl, rfl, rfl, rfl, rfl⟩ (sendEmpty_sends s.active .keepalive s.active.keys)
  | delay id delay =>
    exact sends ⟨rfl, rfl, rfl, rfl, rfl⟩
      (.of_sending (.stats _ id fun _ => PeerStats.grows_recordQueueDelay delay))
  | outbound kind payload targets =>
    exact sends ⟨rfl, rfl, rfl, rfl, rfl⟩
      (sendToAll_sends s.active setup event.2 kind payload targets 0)
  | initiation peer packet =>
    refine .kept (received.trans (sameSettings_onInitiation ..))
      (calm_onInitiation setup event.2 { s with recvErrors := 0 } peer packet) ?_
    obtain ⟨_, _, eq⟩ := onInitiation_frame setup event.2 { s with recvErrors := 0 } peer packet
    rw [eq]
    exact .refl _
  | finish peer packet arrives first =>
    exact rateRound_onFinish setup event.2 s peer packet
  | rekey peer packet =>
    refine .kept (received.trans (sameSettings_onRekey ..))
      (calm_onRekey event.2 { s with recvErrors := 0 } peer packet) ?_
    obtain ⟨_, eq⟩ := onRekey_frame event.2 { s with recvErrors := 0 } peer packet
    rw [eq]
    exact .refl _
  | keepalive peer packet =>
    exact .kept (received.trans (sameSettings_onKeepalive ..))
      (calm_onKeepalive event.2 { s with recvErrors := 0 } peer packet)
      (rates_of_accrued (accrued_onKeepalive event.2 { s with recvErrors := 0 } peer packet))
  | data peer packet wireBytes =>
    exact .kept (received.trans (sameSettings_onData ..))
      (calm_onData setup event.2 { s with recvErrors := 0 } peer packet wireBytes)
      (onData_rates setup event.2 { s with recvErrors := 0 } peer packet wireBytes)

end

section
variable {setup : Setup} {s : ServerLoop P}

/-- A reload replaces the limiters, or the limits are as before. -/
lemma Policed.applyConfig (h : s.Policed) (next : ServerConfig) (identities : List PeerIdentity)
    (now : Nat) : (s.applyConfig next identities now).1.Policed := by
  have limited : ∀ s : ServerLoop P, s.Policed → ∀ id peer,
      (s.applyLimits next now).active.lookup id = some peer →
      peer.rxLimiter.rateBytesPerSec = mibRate next.limits.rxMibPerSec := by
    intro s h id peer found
    unfold applyLimits at found
    split at found
    · rw [HashMap.lookup_mapVal] at found
      obtain ⟨old, _, rfl⟩ := Option.map_eq_some_iff.1 found
      rfl
    · next same =>
      rw [h id peer found, not_ne_iff.1 same]
  have linked : ∀ s : ServerLoop P, s.Policed → (s.applyLinks next).Policed := by
    intro s h
    unfold applyLinks
    split
    · exact h
    · exact h
  have dropped : s.dropSessions.1.Policed := by
    intro id peer found
    cases found
  unfold ServerLoop.applyConfig
  cases s.authChanged next with
  | false => exact limited _ (linked s h)
  | true => exact limited _ (linked _ dropped)

lemma install_rate {identity : PeerIdentity} {session : ProtectedSession P} {endpoint : SocketAddr}
    {gracePeriod rxRate now : Nat} {peer : ActivePeer P}
    (found : (install s.active identity session endpoint gracePeriod rxRate now).1.lookup
      session.sessionId = some peer) :
    (session.sessionId ∉ s.active ∧ peer.rxLimiter.rateBytesPerSec = rxRate) ∨
      ∃ existing, s.active.lookup session.sessionId = some existing ∧
        peer.rxLimiter = existing.rxLimiter := by
  obtain ⟨absent, rfl⟩ | ⟨existing, before, rfl⟩ := lookup_install_own found
  · exact .inl ⟨AList.lookup_eq_none.1 absent, rfl⟩
  · exact .inr ⟨existing, before, rfl⟩

/-- A round keeps the rates iff it creates no session at another. -/
lemma policed_step (h : s.Policed) (event : Event × Env) :
    (step setup s event).1.Policed ↔ CreatesAtRate setup s event := by
  have round := rateRound_step setup s event
  unfold CreatesAtRate
  generalize step setup s event = result at round
  cases round with
  | kept settings calm rates =>
    refine ⟨fun _ record mem => absurd (calm.outputs _ mem) Output.CalmFor.not_installed, fun _ => ?_⟩
    intro id peer found
    obtain ⟨old, before, same⟩ := rates id peer found
    rw [same, settings.config]
    exact h id old before
  | reloaded next identities =>
    have calm := calm_applyConfig s next identities event.2.clock.instant
    exact ⟨fun _ record mem => absurd (calm.outputs _ mem) Output.CalmFor.not_installed,
      fun _ => h.applyConfig next identities _⟩
  | @created s' out record identity session peer own settings sends =>
    refine ⟨?_, ?_⟩
    · intro policed other mem
      obtain same | mem := List.mem_cons.1 mem
      · cases same
        by_cases active : record.sessionId ∈ s.active
        · exact .inl active
        · -- the new entry is in the table, and the acknowledgment kept its rate
          obtain ⟨new, installed, _⟩ := lookup_install_self s.active identity session peer
            setup.rekeyGracePeriod setup.rxRateBytesPerSec event.2.clock.instant
          have present : session.sessionId ∈ s'.active := by
            rw [AList.mem_keys, sends.table.keys, ← AList.mem_keys]
            exact HashMap.mem_iff_lookup.2 ⟨new, installed⟩
          obtain ⟨entry, found⟩ := HashMap.mem_iff_lookup.1 present
          obtain ⟨new, installed, rate⟩ := sends.rates _ entry found
          obtain ⟨_, start⟩ | ⟨existing, before, _⟩ := install_rate installed
          · right
            rw [← start, ← rate, ← settings.config]
            exact policed _ entry found
          · rw [own] at active
            exact absurd (HashMap.mem_iff_lookup.2 ⟨existing, before⟩) active
      · exact (sends.outputs _ mem).elim
    · intro allowed id entry found
      obtain ⟨new, installed, rate⟩ := sends.rates id entry found
      rw [rate, settings.config]
      obtain ⟨rfl, _⟩ | ⟨_, before⟩ := lookup_install installed
      · obtain ⟨absent, start⟩ | ⟨existing, before, same⟩ := install_rate installed
        · rw [start]
          exact (allowed record List.mem_cons_self).resolve_left (own ▸ absent)
        · rw [same]
          exact h _ existing before
      · exact h id new before

end

/-- The rates follow the configuration along a run iff no session is created while the configured
rate differs from the one with which the loop started. -/
theorem policed_iff (setup : Setup) (config : ServerConfig) (identities : List PeerIdentity)
    (ca : Option CertificateAuthorityConfig) (events : List (Event × Env)) :
    Always (fun s event => (step setup s event).1) Policed (start P config identities ca) events ↔
      EachStep (fun s event => (step setup s event).1) (CreatesAtRate setup)
        (start P config identities ca) events := by
  have started : (start P config identities ca).Policed := by
    intro id peer found
    cases found
  exact always_iff_eachStep (I := fun _ => True) trivial started (fun _ _ _ => trivial)
    fun s event _ h => policed_step h event

section
open Primitives Trace

def limitedServer : ServerLoop transparent :=
  (start transparent hostConfig [pinnedPeer] none).after hostSetup
    ((.reload (some limitedConfig) true, sampleEnv) :: opening :: quietly [finishing])

/-- The peer is policed at the rate of the start, which is no limit at all. -/
theorem new_session_ignores_reload :
    hostSetup.rxRateBytesPerSec = mibRate hostConfig.limits.rxMibPerSec ∧
      mibRate limitedServer.config.limits.rxMibPerSec = 1048576 ∧
      (limitedServer.active.lookup drawnId).map (·.rxLimiter.rateBytesPerSec) = some 0 ∧
      ¬ limitedServer.Policed := by
  have rates : hostSetup.rxRateBytesPerSec = mibRate hostConfig.limits.rxMibPerSec ∧
      mibRate limitedServer.config.limits.rxMibPerSec = 1048576 ∧
      (limitedServer.active.lookup drawnId).map (·.rxLimiter.rateBytesPerSec) = some 0 := by
    decide +kernel
  obtain ⟨started, configured, policed⟩ := rates
  refine ⟨started, configured, policed, ?_⟩
  intro follows
  obtain ⟨peer, found, rate⟩ := Option.map_eq_some_iff.1 policed
  have same := follows drawnId peer found
  rw [configured, rate] at same
  exact absurd same (by decide)

end
end ServerLoop
end Rvpn.Server
