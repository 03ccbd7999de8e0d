import Rvpn.Server.Registry

/-!
# Reloading the configuration

`reload_config` with its result. It fails before it changes anything, finds nothing to do, or
applies the new configuration as a whole (`reload`). When the peers or the certificate authority
change it drops all sessions and pending handshakes (`Current`). Whether something changed is decided on
serialized text, and a map is written in the order in which it is iterated.
-/

namespace Rvpn.Server
open Config Crypto Protocol Routing

variable {P : Primitives}

namespace ServerLoop

/-- The settings that only a reload changes. -/
structure SameSettings (s s' : ServerLoop P) : Prop where
  config : s'.config = s.config
  identities : s'.identities = s.identities
  certificateAuthority : s'.certificateAuthority = s.certificateAuthority
  perSourceLimit : s'.perSourceLimit = s.perSourceLimit
  links : s'.router.links = s.router.links

namespace SameSettings
variable {s s' s'' : ServerLoop P}

lemma refl (s : ServerLoop P) : s.SameSettings s :=
  ⟨rfl, rfl, rfl, rfl, rfl⟩

lemma trans (h : s.SameSettings s') (h' : s'.SameSettings s'') : s.SameSettings s'' :=
  ⟨h'.config.trans h.config, h'.identities.trans h.identities,
    h'.certificateAuthority.trans h.certificateAuthority,
    h'.perSourceLimit.trans h.perSourceLimit, h'.links.trans h.links⟩

end SameSettings

lemma unregisterAll_links (ids : List SessionId) (router : Router) :
    (ids.foldl Router.unregister router).links = router.links := by
  induction ids generalizing router with
  | nil => rfl
  | cons id rest ih => rw [List.foldl_cons, ih, Router.unregister_links]

lemma registerNewPeers_links (router : Router) (active : ActivePeers P) :
    (registerNewPeers router active).links = router.links := by
  unfold registerNewPeers
  induction active.toPairs generalizing router with
  | nil => rfl
  | cons entry rest ih =>
    rw [List.foldl_cons, ih]
    split
    · rfl
    · exact Router.register_links ..

section
variable (setup : Setup) (env : Env) (s : ServerLoop P) (peer : SocketAddr) (packet : Packet)

lemma sameSettings_onInitiation : s.SameSettings (s.onInitiation setup env peer packet).1 := by
  obtain ⟨_, _, eq⟩ := onInitiation_frame setup env s peer packet
  rw [eq]
  exact ⟨rfl, rfl, rfl, rfl, rfl⟩

lemma sameSettings_acknowledgeFinish (id : SessionId) :
    s.SameSettings (s.acknowledgeFinish setup env peer id).1 := by
  obtain ⟨_, _, eq⟩ := acknowledgeFinish_frame setup env s peer id
  rw [eq]
  exact ⟨rfl, rfl, rfl, rfl, rfl⟩

lemma sameSettings_onFinish : s.SameSettings (s.onFinish setup env peer packet).1 := by
  unfold onFinish
  simp only
  refine .trans ?_ (sameSettings_acknowledgeFinish setup env _ peer _)
  refine ⟨rfl, rfl, rfl, rfl, ?_⟩
  rw [registerNewPeers_links, unregisterAll_links]

lemma sameSettings_onRekey : s.SameSettings (s.onRekey env peer packet).1 := by
  obtain ⟨_, eq⟩ := onRekey_frame env s peer packet
  rw [eq]
  exact ⟨rfl, rfl, rfl, rfl, rfl⟩

lemma sameSettings_onKeepalive : s.SameSettings (s.onKeepalive env peer packet).1 := by
  obtain ⟨_, eq⟩ := onKeepalive_frame env s peer packet
  rw [eq]
  exact ⟨rfl, rfl, rfl, rfl, rfl⟩

lemma sameSettings_onData (wireBytes : Nat) :
    s.SameSettings (s.onData setup env peer packet wireBytes).1 := by
  obtain ⟨_, _, links, eq⟩ := onData_frame setup env s peer packet wireBytes
  rw [eq]
  exact ⟨rfl, rfl, rfl, rfl, links⟩

lemma sameSettings_sweepIdle (now : Nat) : s.SameSettings (s.sweepIdle setup now) := by
  unfold sweepIdle
  split
  · exact .refl s
  · exact ⟨rfl, rfl, rfl, rfl, unregisterAll_links ..⟩

end

/-- A round keeps the settings, or it applies a valid configuration. -/
lemma step_settings (setup : Setup) (s : ServerLoop P) (event : Event × Env) :
    s.SameSettings (step setup s event).1 ∨
      ∃ next identities, next.peerIdentities setup.parser = .ok identities ∧
        step setup s event = s.applyConfig next identities event.2.clock.instant := by
  have round := round_step setup s event
  generalize step setup s event = result at round
  have received : s.SameSettings { s with recvErrors := 0 } := ⟨rfl, rfl, rfl, rfl, rfl⟩
  cases round with
  | idle recvErrors => exact .inl ⟨rfl, rfl, rfl, rfl, rfl⟩
  | stop recvErrors => exact .inl ⟨rfl, rfl, rfl, rfl, rfl⟩
  | reload candidate dnsReplaced =>
    obtain same | ⟨next, identities, _, _, resolved, applied⟩ :=
      reloadConfig_cases setup s candidate dnsReplaced event.2.clock.instant
    · rw [same]
      exact .inl (.refl s)
    · exact .inr ⟨next, identities, resolved, applied⟩
  | retry => exact .inl ⟨rfl, rfl, rfl, rfl, rfl⟩
  | sweep => exact .inl (sameSettings_sweepIdle ..)
  | keepalives => exact .inl ⟨rfl, rfl, rfl, rfl, rfl⟩
  | delay id delay => exact .inl ⟨rfl, rfl, rfl, rfl, rfl⟩
  | outbound kind payload targets => exact .inl ⟨rfl, rfl, rfl, rfl, rfl⟩
  | initiation peer packet => exact .inl (received.trans (sameSettings_onInitiation ..))
  | finish peer packet arrives first => exact .inl (received.trans (sameSettings_onFinish ..))
  | rekey peer packet => exact .inl (received.trans (sameSettings_onRekey ..))
  | keepalive peer packet => exact .inl (received.trans (sameSettings_onKeepalive ..))
  | data peer packet wireBytes => exact .inl (received.trans (sameSettings_onData ..))

section
variable (s : ServerLoop P) {next : ServerConfig} (identities : List PeerIdentity) (now : Nat)

lemma applyConfig_links (links : s.router.links = linksForConfig s.config) :
    (s.applyConfig next identities now).1.router.links = linksForConfig next := by
  have applied : ∀ s : ServerLoop P, s.router.links = linksForConfig s.config →
      ((s.applyLinks next).applyLimits next now).router.links = linksForConfig next := by
    intro s links
    have replaced : (s.applyLinks next).router.links = linksForConfig next := by
      unfold applyLinks
      split
      · rfl
      · next same => rw [links, linksForConfig, linksForConfig, not_ne_iff.1 same]
    unfold applyLimits
    split
    · exact replaced
    · exact replaced
  have dropped : s.dropSessions.1.router.links = linksForConfig s.dropSessions.1.config :=
    (unregisterAll_links ..).trans links
  unfold applyConfig
  cases s.authChanged next with
  | false => exact applied s links
  | true => exact applied s.dropSessions.1 dropped

/-- Nothing outlives the peers and the authority it began under. -/
lemma applyConfig_dropped (changed : s.authChanged next = true) (id : SessionId) :
    (s.applyConfig next identities now).1.active.lookup id = none ∧
      (s.applyConfig next identities now).1.pending.entries.lookup id = none := by
  unfold applyConfig applyLinks applyLimits
  simp only [changed, if_true]
  split
  · split
    · exact ⟨rfl, rfl⟩
    · exact ⟨rfl, rfl⟩
  · split
    · exact ⟨rfl, rfl⟩
    · exact ⟨rfl, rfl⟩

end
end ServerLoop

/-! ### Who is in the tables -/

/-- The configuration lists the peer, has the authority, or gives a subject this identity. -/
inductive Authorises (parser : AddressParser) (config : ServerConfig) : PendingSource → Prop
  | listed {entry : ServerPeerConfig} {identity : PeerIdentity} (mem : entry ∈ config.peers)
      (resolved : entry.identity parser = .ok identity) : Authorises parser config (.known identity)
  | authority {ca : CertificateAuthorityConfig} (configured : config.certificateAuthority = some ca) :
      Authorises parser config (.certificateAuthority ca)
  | certified {ca : CertificateAuthorityConfig} {subject : Option (Bytes 32)}
      {identity : PeerIdentity} (configured : config.certificateAuthority = some ca)
      (derived : finishedIdentity parser (.certificateAuthority ca) subject = some identity) :
      Authorises parser config (.known identity)

section
variable {parser : AddressParser} {config next : ServerConfig} {source : PendingSource}

lemma Authorises.congr (peers : config.peers = next.peers)
    (authority : config.certificateAuthority = next.certificateAuthority)
    (h : Authorises parser config source) : Authorises parser next source := by
  cases h with
  | listed mem resolved => exact .listed (peers ▸ mem) resolved
  | authority configured => exact .authority (authority ▸ configured)
  | certified configured derived => exact .certified (authority ▸ configured) derived

/-- A handshake from an authorised source ends in an authorised identity. -/
lemma Authorises.finished {remote : Option (Bytes 32)} {identity : PeerIdentity}
    (h : Authorises parser config source)
    (derived : finishedIdentity parser source remote = some identity) :
    Authorises parser config (.known identity) := by
  cases h with
  | listed mem resolved =>
    cases derived
    exact .listed mem resolved
  | authority configured => exact .certified configured derived
  | certified configured before =>
    cases derived
    exact .certified configured before

lemma Authorises.of_mem {identities : List PeerIdentity} {identity : PeerIdentity}
    (resolved : config.peerIdentities parser = .ok identities) (mem : identity ∈ identities) :
    Authorises parser config (.known identity) := by
  obtain ⟨entry, listed, own⟩ := (except_mapM_values resolved).2 identity mem
  exact .listed listed own

end

namespace ServerLoop

/-- The settings are the configuration's, which authorises everything. -/
structure Current (parser : AddressParser) (s : ServerLoop P) : Prop where
  identities : s.config.peerIdentities parser = .ok s.identities
  certificateAuthority : s.certificateAuthority = s.config.certificateAuthority
  perSourceLimit : s.perSourceLimit = perSourcePendingLimit s.identities s.certificateAuthority
  links : s.router.links = linksForConfig s.config
  active : ∀ id peer, s.active.lookup id = some peer →
    Authorises parser s.config (.known peer.identity)
  pending : ∀ id state, s.pending.entries.lookup id = some state →
    Authorises parser s.config state.source

namespace Current
variable {setup : Setup} {s : ServerLoop P} {event : Event × Env}

/-- Sessions after a round are authorised by the configuration before. -/
lemma active_step (h : s.Current setup.parser) {id : SessionId} {peer : ActivePeer P}
    (found : (step setup s event).1.active.lookup id = some peer) :
    Authorises setup.parser s.config (.known peer.identity) := by
  obtain calm | ⟨_, _, state, _, remote, identity, _, _, completes, _, _, _, calm⟩ :=
    step_active setup s event
  · obtain ⟨old, before, keeps⟩ := calm.table id peer found
    rw [keeps.identity]
    exact h.active id old before
  · obtain ⟨old, before, keeps⟩ := calm.table id peer found
    rw [keeps.identity]
    obtain ⟨_, own, _⟩ | ⟨_, before⟩ := lookup_install before
    · rw [own]
      exact (h.pending _ state completes.found).finished completes.identity
    · exact h.active id old before

/-- A new handshake is for a listed peer, the authority or a session. -/
lemma pending_step (h : s.Current setup.parser) {id : SessionId} {state : PendingHandshake P}
    (found : (step setup s event).1.pending.entries.lookup id = some state) :
    Authorises setup.parser s.config state.source := by
  obtain ⟨old, before, _, rfl⟩ | started := step_pending setup s found
  · exact h.pending id old before
  · cases started with
    | known identity _ _ _ configured _ source =>
      rw [source]
      exact .of_mem h.identities configured
    | authority ca _ _ _ _ configured _ source =>
      rw [source]
      exact .authority (h.certificateAuthority ▸ configured)
    | rekey key current _ _ active _ _ source =>
      rw [source]
      exact h.active key current active

lemma step (h : s.Current setup.parser) (event : Event × Env) :
    (step setup s event).1.Current setup.parser := by
  obtain same | ⟨next, identities, resolved, applied⟩ := step_settings setup s event
  · refine ⟨?_, ?_, ?_, ?_, ?_, ?_⟩
    · rw [same.config, same.identities, h.identities]
    · rw [same.config, same.certificateAuthority, h.certificateAuthority]
    · rw [same.perSourceLimit, same.identities, same.certificateAuthority, h.perSourceLimit]
    · rw [same.config, same.links, h.links]
    · intro id peer found
      rw [same.config]
      exact h.active_step found
    · intro id state found
      rw [same.config]
      exact h.pending_step found
  · have links : (s.applyConfig next identities event.2.clock.instant).1.router.links =
        linksForConfig next := applyConfig_links s identities _ h.links
    have active : ∀ id peer, (ServerLoop.step setup s event).1.active.lookup id = some peer →
        Authorises setup.parser s.config (.known peer.identity) := fun _ _ => h.active_step
    have pending : ∀ id state,
        (ServerLoop.step setup s event).1.pending.entries.lookup id = some state →
        Authorises setup.parser s.config state.source := fun _ _ => h.pending_step
    rw [applied] at active pending ⊢
    cases changed : s.authChanged next with
    | false =>
      -- the same peers and the same authority stand behind those who stay
      obtain ⟨peers, authority⟩ := not_not.1 (of_decide_eq_false changed)
      exact ⟨resolved, rfl, rfl, links,
        fun id peer found => (active id peer found).congr peers authority,
        fun id state found => (pending id state found).congr peers authority⟩
    | true =>
      refine ⟨resolved, rfl, rfl, links, ?_, ?_⟩
      · intro id peer found
        cases (applyConfig_dropped s identities _ changed id).1.symm.trans found
      · intro id state found
        cases (applyConfig_dropped s identities _ changed id).2.symm.trans found

end Current
structure TakesOver (parser : AddressParser) (s : ServerLoop P) (next : ServerConfig)
    (s' : ServerLoop P) : Prop where
  config : s'.config = next
  identities : next.peerIdentities parser = .ok s'.identities
  certificateAuthority : s'.certificateAuthority = next.certificateAuthority
  perSourceLimit : s'.perSourceLimit = perSourcePendingLimit s'.identities next.certificateAuthority
  links : s.router.links = linksForConfig s.config → s'.router.links = linksForConfig next

/-- A reload that does not return `Ok(true)` changes nothing; one that does takes over the whole
configuration. In every reachable state the settings are those of the current configuration, which
stands behind every session and pending handshake. -/
theorem reload_all_or_nothing (setup : Setup) :
    (∀ (s : ServerLoop P) (candidate : Option ServerConfig) (dnsReplaced : Bool) (now : Nat),
      ((s.reload setup candidate dnsReplaced now).1 ≠ .ok true →
        (s.reload setup candidate dnsReplaced now).2.1 = s) ∧
      ((s.reload setup candidate dnsReplaced now).1 = .ok true → ∃ next, candidate = some next ∧
          s.TakesOver setup.parser next (s.reload setup candidate dnsReplaced now).2.1)) ∧
      ∀ (config : ServerConfig) (identities : List PeerIdentity) (events : List (Event × Env)),
        config.peerIdentities setup.parser = .ok identities →
        ((ServerLoop.start P config identities config.certificateAuthority).after setup
          events).Current setup.parser := by
  refine ⟨?_, ?_⟩
  · intro s candidate dnsReplaced now
    obtain ⟨failed, same⟩ | ⟨next, identities, read, _, resolved, applied⟩ :=
      reload_cases setup s candidate dnsReplaced now
    · exact ⟨fun _ => by rw [same], fun changed => absurd changed failed⟩
    · rw [applied]
      refine ⟨fun failed => absurd rfl failed, fun _ => ⟨next, read, ?_⟩⟩
      exact ⟨rfl, resolved, rfl, rfl, applyConfig_links s identities now⟩
  · intro config identities events resolved
    apply run_invariant' (I := Current setup.parser)
    · refine ⟨resolved, rfl, rfl, rfl, ?_, ?_⟩
      · intro id peer found
        cases found
      · intro id state found
        cases found
    · exact fun s event h => h.step event

section
open Primitives Trace

def hostParser : AddressParser where
  net := fun text => if text = "10.0.0.2/32" then some (hostNet 2) else none
  addr := fun _ => none

def hostConfig : ServerConfig where
  bind := { ip := .v4 (Bytes.ofList 4 [192, 0, 2, 1]), port := 51820 }
  peers :=
    [{ name := "peer"
       auth := .pinnedKey (hexEncode (keyOf 8).toList) (hexEncode (keyOf 1).toList)
       allowedIps := ["10.0.0.2/32"] }]

def hostSetup : Setup :=
  { deviceSetup (none, none) with parser := hostParser }

lemma peerIdentities_hostConfig : hostConfig.peerIdentities hostParser = .ok [pinnedPeer] := by
  decide +kernel

def limitedConfig : ServerConfig :=
  { hostConfig with limits := { rxMibPerSec := 1 } }

/-- A server with a session. -/
def hostServer : ServerLoop transparent :=
  (ServerLoop.start transparent hostConfig [pinnedPeer] none).after hostSetup (opening :: quietly [finishing])

/-- A reload of the limits keeps the session, which stays authorised. -/
theorem reload_all_or_nothing_session : drawnId ∈ hostServer.active ∧
      (hostServer.reload hostSetup (some limitedConfig) true 0).1 = .ok true ∧
      hostServer.TakesOver hostParser limitedConfig
        (hostServer.reload hostSetup (some limitedConfig) true 0).2.1 ∧
      drawnId ∈ ((ServerLoop.start transparent hostConfig [pinnedPeer] none).after hostSetup
        (opening :: quietly [finishing] ++ [(.reload (some limitedConfig) true, sampleEnv)])).active ∧
      ((ServerLoop.start transparent hostConfig [pinnedPeer] none).after hostSetup
        (opening :: quietly [finishing] ++
          [(.reload (some limitedConfig) true, sampleEnv)])).Current hostParser := by
  have changed : (hostServer.reload hostSetup (some limitedConfig) true 0).1 = .ok true := by decide +kernel
  obtain ⟨next, read, takesOver⟩ :=
    ((reload_all_or_nothing hostSetup).1 hostServer (some limitedConfig) true 0).2 changed
  cases read
  exact ⟨by decide +kernel, changed, takesOver, by decide +kernel,
    (reload_all_or_nothing hostSetup).2 hostConfig [pinnedPeer] _ peerIdentities_hostConfig⟩

end

end ServerLoop

/-! ### Reloading the same content -/

namespace ServerLoop

/-- A file with the same content that is taken for changed is applied. -/
lemma reload_of_authChanged {setup : Setup} (s : ServerLoop P) {next : ServerConfig}
    {identities : List PeerIdentity} (dnsReplaced : Bool) (now : Nat)
    (changed : s.authChanged next = true) (same : s.config.SameContent next)
    (valid : s.config.validate setup.parser = .ok ())
    (resolved : next.peerIdentities setup.parser = .ok identities) :
    s.reload setup (some next) dnsReplaced now = (.ok true, s.applyConfig next identities now) := by
  have passes := same.validate valid
  obtain ⟨_, rest⟩ := same
  generalize next.certificateAuthority = other at rest
  subst rest
  unfold reload
  simp only [passes, changed, resolved, ne_eq, and_true, not_true_eq_false, Bool.true_eq_false,
    false_and, if_false]

/-- A file with the current content keeps all sessions iff its overrides are iterated in the same
order. -/
theorem unchanged_reload_iff (setup : Setup) (s : ServerLoop P) (next : ServerConfig)
    (dnsReplaced : Bool) (now : Nat) (valid : s.config.validate setup.parser = .ok ())
    (same : s.config.SameContent next) :
    ((s.reload setup (some next) dnsReplaced now).1 = .ok false ∧
        ∀ id ∈ s.active, id ∈ (s.reload setup (some next) dnsReplaced now).2.1.active) ↔
      s.config.overrideOrder = next.overrideOrder := by
  refine ⟨?_, ?_⟩
  · intro ⟨unchanged, _⟩
    unfold reload at unchanged
    simp only [same.validate valid] at unchanged
    split at unchanged
    · cases unchanged
    · split at unchanged
      · next nothing =>
        obtain ⟨_, authority⟩ := not_not.1 (of_decide_eq_false nothing.1)
        rw [ServerConfig.overrideOrder, ServerConfig.overrideOrder, authority]
      · split at unchanged
        · cases unchanged
        · split at unchanged
          · cases unchanged
          · cases unchanged
  · intro order
    obtain rfl := same.eq_of_order order
    have equal : s.authChanged s.config = false := decide_eq_false (not_not.2 ⟨rfl, rfl⟩)
    have nothing : s.reload setup (some s.config) dnsReplaced now = (.ok false, s, []) := by
      simp [reload, valid, equal]
    rw [nothing]
    exact ⟨rfl, fun id active => active⟩

section
open Primitives Trace

def overridingConfig (first second : UInt8) : ServerConfig :=
  { hostConfig with
    certificateAuthority := some { revokingAuthority with
      peerOverrides := (AList.insert (hexEncode (keyOf second).toList) ["10.0.0.2/32"] ∅).insert
        (hexEncode (keyOf first).toList) ["10.0.0.2/32"] } }

def overridingServer : ServerLoop transparent :=
  (ServerLoop.start transparent (overridingConfig 2 3) [pinnedPeer]
    (overridingConfig 2 3).certificateAuthority).after hostSetup
    ((opening.1, { certifiedEnv with
        draw := fun n => if n = 0 then certifiedEnv.draw 0 else ⟨none, none, none⟩ }) ::
      quietly [finishing])

lemma overridingServer_started : overridingServer.config = overridingConfig 2 3 ∧
    (overridingConfig 2 3).validate hostParser = .ok () ∧ drawnId ∈ overridingServer.active := by
  decide +kernel

/-- The same file, read in the same order, keeps the session. -/
theorem unchanged_reload_iff_same_file : drawnId ∈ overridingServer.active ∧
      (overridingServer.reload hostSetup (some (overridingConfig 2 3)) true 0).1 = .ok false ∧
      drawnId ∈ (overridingServer.reload hostSetup (some (overridingConfig 2 3)) true 0).2.1.active := by
  obtain ⟨config, valid, active⟩ := overridingServer_started
  have same : overridingServer.config.SameContent (overridingConfig 2 3) := by
    rw [config]
    exact ⟨.some ⟨fun _ => rfl, rfl⟩, rfl⟩
  obtain ⟨unchanged, keeps⟩ := (unchanged_reload_iff hostSetup overridingServer (overridingConfig 2 3) true 0
    (config ▸ valid) same).2 (by rw [config])
  exact ⟨active, unchanged, keeps drawnId active⟩

/-- The order does not matter for what the configuration says. -/
lemma sameContent_overridingConfig : (overridingConfig 2 3).SameContent (overridingConfig 3 2) := by
  have distinct : hexEncode (keyOf 2).toList ≠ hexEncode (keyOf 3).toList := by decide +kernel
  refine ⟨.some ⟨?_, rfl⟩, rfl⟩
  intro subject
  simp only [HashMap.lookup_insert_eq]
  split
  · next own =>
    rw [own, if_neg distinct.symm]
  · rfl

lemma peerIdentities_overridingConfig :
    (overridingConfig 3 2).peerIdentities hostParser = .ok [pinnedPeer] := by
  decide +kernel

/-- A file with the same content closes the session of the pinned peer. -/
theorem unchanged_reload_closes_session : overridingServer.config = overridingConfig 2 3 ∧
      (overridingConfig 2 3).validate hostParser = .ok () ∧
      (overridingConfig 2 3).SameContent (overridingConfig 3 2) ∧
      drawnId ∈ overridingServer.active ∧
      (overridingServer.reload hostSetup (some (overridingConfig 3 2)) true 0).1 = .ok true ∧
      drawnId ∉ (overridingServer.reload hostSetup (some (overridingConfig 3 2)) true 0).2.1.active := by
  obtain ⟨config, valid, active⟩ := overridingServer_started
  have changed : overridingServer.authChanged (overridingConfig 3 2) = true := by
    rw [authChanged, config]
    decide +kernel
  -- only the authority differs, so the reload goes through
  have same : overridingServer.config.SameContent (overridingConfig 3 2) :=
    config ▸ sameContent_overridingConfig
  have valid' : overridingServer.config.validate hostSetup.parser = .ok () := config ▸ valid
  rw [reload_of_authChanged overridingServer true 0 changed same valid' peerIdentities_overridingConfig]
  have dropped := (applyConfig_dropped overridingServer [pinnedPeer] 0 changed drawnId).1
  dsimp only
  exact ⟨config, valid, sameContent_overridingConfig, active, rfl, AList.lookup_eq_none.1 dropped⟩

end
end ServerLoop
end Rvpn.Server
