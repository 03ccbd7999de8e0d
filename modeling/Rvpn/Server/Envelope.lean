import Rvpn.Server.Accounts
import Rvpn.System.Polling

/-!
# The envelope of the inbound policing

While a session stays in the table and no reload replaces its limiter, the payloads that
`route_inbound` lets through for it come from one token bucket, which a rekey passes on. The arithmetic
of a call cannot overflow (`checkedAllow_eq`).
-/

namespace Rvpn.Server
open Config Crypto Protocol TokenBucket

variable {P : Primitives}

namespace PeerRateLimiter

def durationMax : Nat :=
  u64Max * 1000000000 + 999999999

/-- `Duration::as_nanos`, a `u128`. -/
def asNanos (elapsed : Nat) : Checked Nat :=
  if elapsed ≤ 340282366920938463463374607431768211455 then .ok elapsed else .error .overflow

/-- `PeerRateLimiter::allow` in a build with overflow checks. -/
def checkedAllow (limiter : PeerRateLimiter) (bytes now : Nat) : Checked (Bool × PeerRateLimiter) :=
  if limiter.rateBytesPerSec = 0 then .ok (true, limiter)
  else do
    let nanos ← asNanos (now - limiter.updated)
    let replenished := min (nanos * limiter.rateBytesPerSec) (2 ^ 128 - 1) / 1000000000
    let tokens := min limiter.burstBytes (saturatingAdd limiter.tokens (min replenished u64Max))
    let limiter := { limiter with tokens := tokens, updated := now }
    let bytes := min bytes u64Max
    if tokens < bytes then .ok (false, limiter)
    else do
      let left ← Checked.sub tokens bytes
      .ok (true, { limiter with tokens := left })

variable {limiter : PeerRateLimiter}

/-- A call returns, after any time that a `Duration` can hold. -/
lemma checkedAllow_eq (bytes : Nat) {now : Nat} (elapsed : now - limiter.updated ≤ durationMax) :
    limiter.checkedAllow bytes now = .ok (limiter.allow bytes now) := by
  have nanos : asNanos (now - limiter.updated) = .ok (now - limiter.updated) :=
    if_pos (elapsed.trans (by decide))
  unfold checkedAllow allow
  split
  · rfl
  · rw [nanos, Checked.bind_ok]
    simp only
    split
    · rfl
    · next enough =>
      rw [Checked.sub_of_le (Nat.le_of_not_lt enough), Checked.bind_ok]

lemma Valid.allow_covered (h : limiter.Valid) (limited : limiter.rateBytesPerSec ≠ 0) {bytes now : Nat}
    (small : (limiter.allow bytes now).1 = true → bytes ≤ u64Max) (later : limiter.updated ≤ now)
    {log : List (Nat × Nat)}
    (covered : Covered 1000000000 limiter.rateBytesPerSec limiter.burstBytes log limiter.tokens
      limiter.updated) :
    (limiter.allow bytes now).2.updated = now ∧
      Covered 1000000000 limiter.rateBytesPerSec limiter.burstBytes
        (log ++ if (limiter.allow bytes now).1 then [(now, bytes)] else [])
        (limiter.allow bytes now).2.tokens now := by
  have refilled : Covered 1000000000 limiter.rateBytesPerSec limiter.burstBytes log
      (limiter.refill now).tokens now := by
    refine covered.refill later (Nat.min_le_left _ _) ?_
    calc (limiter.refill now).tokens * 1000000000
        ≤ (limiter.tokens + (now - limiter.updated) * limiter.rateBytesPerSec / 1000000000) *
            1000000000 := Nat.mul_le_mul_right _ (Nat.min_le_right _ _)
      _ = limiter.tokens * 1000000000 +
            (now - limiter.updated) * limiter.rateBytesPerSec / 1000000000 * 1000000000 :=
          Nat.add_mul _ _ _
      _ ≤ limiter.tokens * 1000000000 + (now - limiter.updated) * limiter.rateBytesPerSec :=
          Nat.add_le_add_left (Nat.div_mul_le_self _ _) _
  rw [h.allow_eq limited] at small ⊢
  split
  · refine ⟨rfl, ?_⟩
    rw [if_neg Bool.false_ne_true, List.append_nil]
    exact refilled
  · next enough =>
    rw [if_neg enough] at small
    rw [Nat.min_eq_left (small rfl)] at enough ⊢
    refine ⟨rfl, ?_⟩
    rw [if_pos rfl]
    exact refilled.spend (Nat.le_of_not_lt enough)

lemma allow_updated_le {bytes now : Nat} (later : limiter.updated ≤ now) :
    (limiter.allow bytes now).2.updated ≤ now := by
  unfold allow
  split
  · exact later
  · simp only
    split
    · exact Nat.le_refl _
    · exact Nat.le_refl _

end PeerRateLimiter

/-- The server, its last round, and what one session got through when. -/
structure Watched (P : Primitives) where
  server : ServerLoop P
  clock : Nat
  log : List (Nat × Nat)

namespace Watched
variable (setup : Setup) (id : SessionId)

def entry (now : Nat) : Option (SessionId × Nat) → List (Nat × Nat)
  | some (id', bytes) => if id' = id then [(now, bytes)] else []
  | none => []

def step (w : Watched P) (event : Event × Env) : Watched P where
  server := (ServerLoop.step setup w.server event).1
  clock := event.2.clock.instant
  log := w.log ++ entry id event.2.clock.instant (w.server.passes setup event)

/-- The clock does not go back, and the length of a payload is a `usize`. -/
def Ordered (w : Watched P) (event : Event × Env) : Prop :=
  w.clock ≤ event.2.clock.instant ∧ ∀ passed ∈ w.server.passes setup event, passed.2 ≤ u64Max

instance (w : Watched P) (event : Event × Env) : Decidable (w.Ordered setup event) :=
  inferInstanceAs (Decidable (_ ∧ _))

/-- The session stays in the table, and no reload replaces its limiter. -/
def Stays (w : Watched P) (event : Event × Env) : Prop :=
  id ∈ (ServerLoop.step setup w.server event).1.active ∧
    (ServerLoop.step setup w.server event).1.config.limits = w.server.config.limits

instance (w : Watched P) (event : Event × Env) : Decidable (w.Stays setup id event) :=
  inferInstanceAs (Decidable (_ ∧ _))

/-- All limiters are valid, and none is in the future. -/
def Sound (w : Watched P) : Prop :=
  ∀ id peer, w.server.active.lookup id = some peer →
    peer.rxLimiter.Valid ∧ peer.rxLimiter.updated ≤ w.clock

variable {setup id}

lemma Sound.step {w : Watched P} (small : setup.rxRateBytesPerSec ≤ u64Max) (h : w.Sound)
    {event : Event × Env} (ordered : w.Ordered setup event) : (w.step setup id event).Sound := by
  have round := ServerLoop.accountRound_step setup w.server event
  intro key peer' found
  have later : ∀ {limiter : PeerRateLimiter}, limiter.Valid ∧ limiter.updated ≤ w.clock →
      limiter.Valid ∧ limiter.updated ≤ event.2.clock.instant :=
    fun old => ⟨old.1, old.2.trans ordered.1⟩
  cases round with
  | accrued silent table =>
    obtain ⟨peer, before, accrues⟩ := table key peer' found
    rw [accrues.limiter]
    exact later (h key peer before)
  | policed id' owner bytes ofOwner charged table =>
    obtain ⟨peer, before, accrues⟩ := table key peer' found
    rw [accrues.limiter]
    rw [HashMap.lookup_modify_found ofOwner] at before
    split at before
    · cases before
      obtain ⟨valid, past⟩ := h id' owner ofOwner
      exact ⟨valid.poll (event.2.clock.instant, bytes),
        PeerRateLimiter.allow_updated_le (past.trans ordered.1)⟩
    · exact later (h key peer before)
  | renewed rate silent fits changed table =>
    have found : (ServerLoop.step setup w.server event).1.active.lookup key = some peer' := found
    rw [table, HashMap.lookup_mapVal] at found
    obtain ⟨peer, _, rfl⟩ := Option.map_eq_some_iff.1 found
    exact ⟨PeerRateLimiter.valid_new fits _, Nat.le_refl _⟩
  | created identity session endpoint silent table =>
    obtain ⟨peer, before, accrues⟩ := table key peer' found
    rw [accrues.limiter]
    obtain ⟨rfl, _⟩ | ⟨_, old⟩ := lookup_install before
    · obtain ⟨_, rfl⟩ | ⟨existing, old, rfl⟩ := lookup_install_own before
      · exact ⟨PeerRateLimiter.valid_new small _, Nat.le_refl _⟩
      · exact later (h _ existing old)
    · exact later (h key peer old)

/-- The session is policed at the rate, and its bucket covers the log. -/
def Policed (id : SessionId) (rate : Nat) (w : Watched P) : Prop :=
  ∃ peer, w.server.active.lookup id = some peer ∧ peer.rxLimiter.rateBytesPerSec = rate ∧
    Covered 1000000000 rate (max rate 65535) w.log peer.rxLimiter.tokens peer.rxLimiter.updated

lemma Policed.of_same {rate : Nat} {w w' : Watched P} (h : w.Policed id rate)
    (log : w'.log = w.log) {peer' : ActivePeer P} (found : w'.server.active.lookup id = some peer')
    (same : ∀ peer, w.server.active.lookup id = some peer → peer'.rxLimiter = peer.rxLimiter) :
    w'.Policed id rate := by
  obtain ⟨peer, before, rates, covered⟩ := h
  refine ⟨peer', found, ?_, ?_⟩
  · rw [same peer before]
    exact rates
  · rw [same peer before, log]
    exact covered

lemma Policed.step {rate : Nat} {w : Watched P} (limited : rate ≠ 0) (sound : w.Sound)
    (h : w.Policed id rate) {event : Event × Env} (ordered : w.Ordered setup event)
    (stays : w.Stays setup id event) : (w.step setup id event).Policed id rate := by
  have round := ServerLoop.accountRound_step setup w.server event
  obtain ⟨peer', found⟩ := HashMap.mem_iff_lookup.1 stays.1
  -- a round that lets nothing through leaves the log alone
  have quiet : w.server.passes setup event = none → (w.step setup id event).log = w.log := by
    intro silent
    rw [Watched.step, silent]
    exact List.append_nil _
  cases round with
  | accrued silent table =>
    refine h.of_same (quiet silent) found ?_
    obtain ⟨peer, before, accrues⟩ := table id peer' found
    intro other beforeOther
    cases before.symm.trans beforeOther
    exact accrues.limiter
  | policed id' owner bytes ofOwner charged table =>
    obtain ⟨peer, before, accrues⟩ := table id peer' found
    rw [HashMap.lookup_modify_found ofOwner] at before
    split at before
    · next same =>
      subst same
      cases before
      obtain ⟨current, beforeCurrent, rates, covered⟩ := h
      cases ofOwner.symm.trans beforeCurrent
      obtain ⟨valid, past⟩ := sound id owner ofOwner
      have small : (owner.rxLimiter.allow bytes event.2.clock.instant).1 = true → bytes ≤ u64Max := by
        intro allowed
        rw [if_pos allowed] at charged
        exact ordered.2 _ charged
      have log : (w.step setup id event).log =
          w.log ++ if (owner.rxLimiter.allow bytes event.2.clock.instant).1 then
            [(event.2.clock.instant, bytes)] else [] := by
        rw [Watched.step, charged]
        split
        · rw [entry, if_pos rfl]
        · rfl
      rw [← rates, ← valid.burst] at covered
      obtain ⟨updated, covered⟩ :=
        valid.allow_covered (rates ▸ limited) small (past.trans ordered.1) covered
      refine ⟨peer', found, ?_, ?_⟩
      · rw [accrues.limiter]
        exact (allow_rate owner.rxLimiter bytes _).trans rates
      · rw [accrues.limiter, log]
        show Covered _ _ _ _ (owner.rxLimiter.allow bytes event.2.clock.instant).2.tokens
          (owner.rxLimiter.allow bytes event.2.clock.instant).2.updated
        rw [updated, ← rates, ← valid.burst]
        exact covered
    · next other =>
      refine h.of_same ?_ found ?_
      · rw [Watched.step, charged]
        split
        · rw [entry, if_neg (Ne.symm other), List.append_nil]
        · exact List.append_nil _
      · intro current beforeCurrent
        cases before.symm.trans beforeCurrent
        exact accrues.limiter
  | renewed rate' silent fits changed table => exact absurd stays.2 changed
  | created identity session endpoint silent table =>
    refine h.of_same (quiet silent) found ?_
    obtain ⟨peer, before, accrues⟩ := table id peer' found
    intro current beforeCurrent
    rw [accrues.limiter]
    obtain ⟨rfl, _⟩ | ⟨_, old⟩ := lookup_install before
    · -- a rekey passes the limiter on
      obtain ⟨absent, _⟩ | ⟨existing, old, rfl⟩ := lookup_install_own before
      · cases absent.symm.trans beforeCurrent
      · cases old.symm.trans beforeCurrent
        rfl
    · cases old.symm.trans beforeCurrent
      rfl

def starting (config : ServerConfig) (identities : List PeerIdentity)
    (ca : Option CertificateAuthorityConfig) (now : Nat) : Watched P where
  server := ServerLoop.start P config identities ca
  clock := now
  log := []

/-- From here on, with an empty log. -/
def fresh (w : Watched P) : Watched P :=
  { w with log := [] }

lemma sound_run (small : setup.rxRateBytesPerSec ≤ u64Max) {config : ServerConfig}
    {identities : List PeerIdentity} {ca : Option CertificateAuthorityConfig} {now : Nat}
    {events : List (Event × Env)}
    (ordered : EachStep (step setup id) (Ordered setup) (starting config identities ca now : Watched P)
      events) :
    (run (step setup id) (starting config identities ca now : Watched P) events).Sound := by
  have start : (starting config identities ca now : Watched P).Sound := by
    intro key peer found
    cases found
  exact run_invariant start (fun _ _ h ok => h.step small ok) ordered

/-- At the beginning of a period the bucket holds no more than its burst. -/
lemma policed_fresh {w : Watched P} (sound : w.Sound) {peer : ActivePeer P}
    (found : w.server.active.lookup id = some peer) :
    w.fresh.Policed id peer.rxLimiter.rateBytesPerSec := by
  obtain ⟨valid, _⟩ := sound id peer found
  refine ⟨peer, found, rfl, ?_⟩
  refine ⟨fun _ mem => absurd mem List.not_mem_nil, ?_, ?_⟩
  · intro t
    have full : peer.rxLimiter.tokens ≤ max peer.rxLimiter.rateBytesPerSec 65535 :=
      valid.burst ▸ valid.tokens
    have none : since w.fresh.log t = 0 := rfl
    rw [none, Nat.zero_add]
    exact (Nat.mul_le_mul_right _ full).trans (Nat.le_add_right _ _)
  · intro t₁ t₂
    exact (Nat.zero_mul _).trans_le (Nat.zero_le _)

/-- While a session stays in the table and no reload replaces its limiter, the payload bytes let
through for it in any window are within burst and rate, and no call of the limiter overflows. -/
theorem policing_envelope (setup : Setup) (small : setup.rxRateBytesPerSec ≤ u64Max)
    (config : ServerConfig) (identities : List PeerIdentity) (ca : Option CertificateAuthorityConfig)
    (begins : Nat) (id : SessionId) (before period : List (Event × Env)) :
    (∀ (w : Watched P), w = run (step setup id) (starting config identities ca begins) before →
      EachStep (step setup id) (Ordered setup) (starting config identities ca begins : Watched P)
        before →
      ∀ peer, w.server.active.lookup id = some peer → peer.rxLimiter.rateBytesPerSec ≠ 0 →
      EachStep (step setup id) (Ordered setup) w.fresh period →
      EachStep (step setup id) (Stays setup id) w.fresh period →
      ∀ t₁ t₂, within (run (step setup id) w.fresh period).log t₁ t₂ * fromSecs 1 ≤
        max peer.rxLimiter.rateBytesPerSec 65535 * fromSecs 1 +
          peer.rxLimiter.rateBytesPerSec * (t₂ - t₁)) ∧
    (∀ (s : ServerLoop P) (env : Env) (endpoint : SocketAddr) (packet : Packet) (wireBytes : Nat),
      packet.header.kind = .data ∨ packet.header.kind = .dataTap →
      s.passesPacket env packet = none → (s.onData setup env endpoint packet wireBytes).2 = []) ∧
    (∀ rate now, rate ≤ u64Max → (PeerRateLimiter.new rate now).Valid) ∧
    ∀ (limiter : PeerRateLimiter) (bytes now : Nat), limiter.Valid →
      now - limiter.updated ≤ PeerRateLimiter.durationMax →
      limiter.checkedAllow bytes now = .ok (limiter.allow bytes now) ∧
        (limiter.allow bytes now).2.Valid := by
  refine ⟨?_, ?_, ?_, ?_⟩
  · rintro w rfl ordered peer found limited ordered' stays t₁ t₂
    have sound := sound_run small ordered
    have policed := policed_fresh sound found
    have both : (run (step setup id) _ period).Sound ∧
        (run (step setup id) _ period).Policed id peer.rxLimiter.rateBytesPerSec :=
      run_invariant (I := fun w => w.Sound ∧ w.Policed id peer.rxLimiter.rateBytesPerSec)
        ⟨sound, policed⟩
        (fun _ _ h ok => ⟨h.1.step small ok.1, h.2.step limited h.1 ok.1 ok.2⟩) (ordered'.and stays)
    obtain ⟨_, _, _, covered⟩ := both.2
    exact covered.envelope t₁ t₂
  · intro s env endpoint packet wireBytes kind silent
    exact ServerLoop.onData_silent setup env s endpoint wireBytes kind silent
  · intro rate now fits
    exact PeerRateLimiter.valid_new fits now
  · intro limiter bytes now valid elapsed
    exact ⟨PeerRateLimiter.checkedAllow_eq bytes elapsed, valid.poll (now, bytes)⟩

section
open Primitives ServerLoop Trace

def limitedSetup : Setup :=
  { hostSetup with rxRateBytesPerSec := 65536 }

def established : Watched transparent :=
  run (step limitedSetup drawnId) (starting hostConfig [pinnedPeer] none 0)
    (opening :: quietly [finishing])

def acrossRekey : List (Event × Env) :=
  quietly (speaking pinnedFirst 0 [(.data, peerPacket)] ++ [rekeying, rekeyed] ++
    speaking pinnedSecond 1 [(.data, peerPacket)])

theorem policing_envelope_across_rekey : limitedSetup.rxRateBytesPerSec ≤ u64Max ∧
      (run (step limitedSetup drawnId) established.fresh acrossRekey).log = [(0, 20), (0, 20)] ∧
      ∀ t₁ t₂, within (run (step limitedSetup drawnId) established.fresh acrossRekey).log t₁ t₂ *
        fromSecs 1 ≤ 65536 * fromSecs 1 + 65536 * (t₂ - t₁) := by
  have small : limitedSetup.rxRateBytesPerSec ≤ u64Max := by decide
  have checked : EachStep (step limitedSetup drawnId) (Ordered limitedSetup)
        (starting hostConfig [pinnedPeer] none 0 : Watched transparent)
        (opening :: quietly [finishing]) ∧
      EachStep (step limitedSetup drawnId) (Ordered limitedSetup) established.fresh acrossRekey ∧
      EachStep (step limitedSetup drawnId) (Stays limitedSetup drawnId) established.fresh
        acrossRekey ∧
      (established.server.active.lookup drawnId).map (·.rxLimiter.rateBytesPerSec) = some 65536 ∧
      (run (step limitedSetup drawnId) established.fresh acrossRekey).log = [(0, 20), (0, 20)] := by
    decide +kernel
  obtain ⟨ordered, ordered', stays, rate, passed⟩ := checked
  refine ⟨small, passed, ?_⟩
  obtain ⟨peer, found, rates⟩ := Option.map_eq_some_iff.1 rate
  have bounded := (policing_envelope limitedSetup small hostConfig [pinnedPeer] none 0 drawnId
    (opening :: quietly [finishing]) acrossRekey).1 established rfl ordered peer found
    (by rw [rates]; decide) ordered' stays
  rw [rates] at bounded
  exact bounded

end

end Watched
end Rvpn.Server
