import Rvpn.Server.UsageHistory

/-!
# Conservation of the usage

The server with its usage history: rounds of the loop in any order, ticks of the history between them,
and the record after the loop. `retired` remembers every session that has left the table, with its
counters at that moment and with those that the history knew. The history always holds what it knew of
the sessions that have left and of those that are there (`Balanced`); a session that leaves the table
takes with it what it gained since the last record.
-/

namespace Rvpn.Server
open Config Crypto HashMap Protocol

variable {P : Primitives}

/-- A session that left: its last counters, and those recorded. -/
structure Retired where
  name : String
  stats : PeerStats
  recorded : PeerStats

/-- The server, its usage history, and the sessions that left. -/
structure Metered (P : Primitives) where
  server : ServerLoop P
  history : UsageHistory
  retired : List Retired

/-- What the loop with a usage history waits for. -/
inductive Turn where
  | round (event : Event × Env)
  | usageTick (clock : Nat × Nat)

namespace Metered
variable (calendar : Calendar) (setup : Setup)

/-- The sessions that leave the table in a round. -/
def leaving (m : Metered P) (event : Event × Env) : List Retired :=
  (HashMap.toPairs (HashMap.departed m.server.active
    (ServerLoop.step setup m.server event).1.active)).map fun entry =>
      ⟨entry.2.identity.name, entry.2.stats, m.history.last entry.1⟩

def step (m : Metered P) : Turn → Metered P
  | .round event =>
    { m with
      server := (ServerLoop.step setup m.server event).1
      retired := m.retired ++ m.leaving setup event }
  | .usageTick clock =>
    { m with history := m.history.record calendar clock m.server.active.toPairs }

/-- The record after the loop, before `close_all`. -/
def shutdown (clock : Nat × Nat) (m : Metered P) : UsageHistory :=
  m.history.record calendar clock m.server.active.toPairs

def starting (config : ServerConfig) (identities : List PeerIdentity)
    (ca : Option CertificateAuthorityConfig) (retentionDays : UInt16) (days : Days) : Metered P where
  server := ServerLoop.start P config identities ca
  history := .opened retentionDays days
  retired := []

/-- The sum of a counter over the sessions of one name that have left. -/
def left (read : Retired → PeerStats) (retired : List Retired) (name : String) (c : Counter) : Nat :=
  (retired.map fun gone => if gone.name = name then c.of (read gone) else 0).sum

/-- The sum of a counter over the sessions of one name that are there. -/
def present (read : SessionId → ActivePeer P → PeerStats) (active : ActivePeers P)
    (name : String) (c : Counter) : Nat :=
  HashMap.weigh (fun id peer => if peer.identity.name = name then c.of (read id peer) else 0) active

def total (m : Metered P) (name : String) (c : Counter) : Nat :=
  left Retired.stats m.retired name c + present (fun _ peer => peer.stats) m.server.active name c

/-- The same, as far as the history knew it at the last record. -/
def known (m : Metered P) (name : String) (c : Counter) : Nat :=
  left Retired.recorded m.retired name c + present (fun id _ => m.history.last id) m.server.active name c

/-- New sessions have unrecorded ids, and keep the name they replace. -/
def Fresh (m : Metered P) : Turn → Prop
  | .round event =>
    ∀ entry ∈ HashMap.toPairs (ServerLoop.step setup m.server event).1.active,
      (entry.1 ∉ m.server.active → entry.1 ∉ m.history.previous) ∧
        ∀ peer ∈ m.server.active.lookup entry.1, entry.2.identity.name = peer.identity.name
  | .usageTick _ => True

/-- No sum of the history saturates, and nothing is pruned. -/
def Exact (m : Metered P) : Turn → Prop
  | .round _ => True
  | .usageTick clock => m.history.Exact calendar clock m.server.active.toPairs

/-- The sessions that leave are up to date in the history. -/
def Settled (m : Metered P) : Turn → Prop
  | .round event => ∀ gone ∈ m.leaving setup event, ∀ c : Counter, c.of gone.recorded = c.of gone.stats
  | .usageTick _ => True

instance (m : Metered P) : ∀ turn, Decidable (m.Fresh setup turn)
  | .round _ => inferInstanceAs (Decidable (∀ _ ∈ _, _))
  | .usageTick _ => inferInstanceAs (Decidable True)

instance (m : Metered P) : ∀ turn, Decidable (m.Exact calendar turn)
  | .round _ => inferInstanceAs (Decidable True)
  | .usageTick _ => inferInstanceAs (Decidable (UsageHistory.Exact _ _ _ _))

instance (m : Metered P) : ∀ turn, Decidable (m.Settled setup turn)
  | .round _ => inferInstanceAs (Decidable (∀ _ ∈ _, _))
  | .usageTick _ => inferInstanceAs (Decidable True)

/-- The history holds what it knew, never more than there was. -/
structure Balanced (days : Days) (m : Metered P) : Prop where
  bounded : ∀ id peer, m.server.active.lookup id = some peer → ∀ c : Counter, c.of peer.stats ≤ u64Max
  behind : ∀ id peer, m.server.active.lookup id = some peer →
    ∀ c : Counter, c.of (m.history.last id) ≤ c.of peer.stats
  retired : ∀ gone ∈ m.retired, ∀ c : Counter, c.of gone.recorded ≤ c.of gone.stats
  balance : ∀ name c, m.history.days.recorded name c = days.recorded name c + m.known name c

variable {calendar setup} {days : Days} {m : Metered P}

lemma of_default (c : Counter) : c.of PeerStats.default = 0 := by
  cases c with
  | _ => rfl

lemma last_of_new {history : UsageHistory} {id : SessionId} (new : id ∉ history.previous) :
    history.last id = PeerStats.default := by
  rw [UsageHistory.last, AList.lookup_eq_none.2 new]
  rfl

/-- Each session of a table was there and has gone on, or is new. -/
lemma comes_from (s : ServerLoop P) (event : Event × Env) {id : SessionId} {peer' : ActivePeer P}
    (found : (ServerLoop.step setup s event).1.active.lookup id = some peer') :
    (∃ peer, s.active.lookup id = some peer ∧ peer.stats.Grows peer'.stats) ∨
      s.active.lookup id = none ∧ PeerStats.default.Grows peer'.stats := by
  have round := ServerLoop.accountRound_step setup s event
  cases round with
  | accrued silent table =>
    obtain ⟨peer, before, accrues⟩ := table id peer' found
    exact .inl ⟨peer, before, accrues.stats⟩
  | policed id' owner bytes ofOwner charged table =>
    obtain ⟨peer, before, accrues⟩ := table id peer' found
    rw [lookup_modify_found ofOwner] at before
    split at before
    · next same =>
      subst same
      cases before
      exact .inl ⟨owner, ofOwner, accrues.stats⟩
    · exact .inl ⟨peer, before, accrues.stats⟩
  | renewed rate silent fits changed table =>
    rw [table, lookup_mapVal] at found
    obtain ⟨peer, before, rfl⟩ := Option.map_eq_some_iff.1 found
    exact .inl ⟨peer, before, .refl _⟩
  | created identity session endpoint silent table =>
    obtain ⟨peer, before, accrues⟩ := table id peer' found
    obtain ⟨rfl, _⟩ | ⟨_, old⟩ := lookup_install before
    · obtain ⟨absent, rfl⟩ | ⟨existing, old, rfl⟩ := lookup_install_own before
      · exact .inr ⟨absent, accrues.stats⟩
      · exact .inl ⟨existing, old, PeerStats.grows_recordRekey.trans accrues.stats⟩
    · exact .inl ⟨peer, old, accrues.stats⟩

lemma left_append (read : Retired → PeerStats) (retired gone : List Retired) (name : String)
    (c : Counter) :
    left read (retired ++ gone) name c = left read retired name c + left read gone name c := by
  rw [left, List.map_append, List.sum_append]
  rfl

lemma left_leaving (event : Event × Env) (name : String) (c : Counter) :
    left Retired.recorded (m.leaving setup event) name c = present (fun id _ => m.history.last id)
        (HashMap.departed m.server.active (ServerLoop.step setup m.server event).1.active) name c := by
  rw [left, leaving, List.map_map]
  rfl

lemma known_round {event : Event × Env} (fresh : m.Fresh setup (.round event)) (name : String)
    (c : Counter) : (m.step calendar setup (.round event)).known name c = m.known name c := by
  have turnover : present (fun id _ => m.history.last id)
        (ServerLoop.step setup m.server event).1.active name c +
      present (fun id _ => m.history.last id)
        (HashMap.departed m.server.active (ServerLoop.step setup m.server event).1.active) name c =
        present (fun id _ => m.history.last id) m.server.active name c := by
    refine weigh_turnover ?_
    intro id peer' found
    have origin := fresh (id, peer') (mem_toPairs.2 found)
    cases before : m.server.active.lookup id with
    | some peer =>
      have named : peer'.identity.name = peer.identity.name := origin.2 peer before
      rw [Option.elim_some, named]
    | none =>
      have new : m.history.last id = PeerStats.default :=
        last_of_new (origin.1 (AList.lookup_eq_none.1 before))
      simp only [new, of_default, ite_self, Option.elim_none]
  calc (m.step calendar setup (.round event)).known name c
      = left Retired.recorded (m.retired ++ m.leaving setup event) name c +
          present (fun id _ => m.history.last id)
            (ServerLoop.step setup m.server event).1.active name c := rfl
    _ = m.known name c := by
      rw [left_append, left_leaving, known, ← turnover]
      omega

/-- What a session is due is what the history does not know yet. -/
lemma Balanced.present_eq (h : m.Balanced days) (name : String) (c : Counter) :
    present (fun _ peer => peer.stats) m.server.active name c =
      present (fun id _ => m.history.last id) m.server.active name c +
        m.history.due m.server.active.toPairs name c := by
  have both : m.history.due m.server.active.toPairs name c =
      HashMap.weigh (fun id peer => if peer.identity.name = name then
        c.of peer.stats - c.of (m.history.last id) else 0) m.server.active := rfl
  rw [both, present, present, ← weigh_add]
  refine weigh_congr ?_
  intro id peer found
  have le := h.behind id peer found c
  split
  · exact (Nat.add_sub_cancel' le).symm
  · rfl

/-- A record brings all sessions that are there up to date. -/
lemma Balanced.recorded_record (h : m.Balanced days) {clock : Nat × Nat}
    (exact : m.Exact calendar (.usageTick clock)) (name : String) (c : Counter) :
    (m.shutdown calendar clock).days.recorded name c =
      days.recorded name c + (left Retired.recorded m.retired name c +
        present (fun _ peer => peer.stats) m.server.active name c) := by
  rw [shutdown, UsageHistory.recorded_record exact, h.balance, known, h.present_eq]
  omega

lemma Balanced.round (h : m.Balanced days) {event : Event × Env}
    (fresh : m.Fresh setup (.round event)) :
    (m.step calendar setup (.round event)).Balanced days := by
  refine ⟨?_, ?_, ?_, ?_⟩
  · intro id peer' found c
    obtain ⟨peer, before, grows⟩ | ⟨_, grows⟩ := comes_from m.server event found
    · exact (grows c (h.bounded id peer before c)).2
    · exact (grows c (of_default c ▸ Nat.zero_le _)).2
  · intro id peer' found c
    obtain ⟨peer, before, grows⟩ | ⟨absent, grows⟩ := comes_from m.server event found
    · exact (h.behind id peer before c).trans (grows c (h.bounded id peer before c)).1
    · have origin := fresh (id, peer') (mem_toPairs.2 found)
      have new : (m.step calendar setup (.round event)).history.last id = PeerStats.default :=
        last_of_new (origin.1 (AList.lookup_eq_none.1 absent))
      rw [new, of_default]
      exact Nat.zero_le _
  · intro gone mem c
    rcases List.mem_append.1 mem with old | leaves
    · exact h.retired gone old c
    · obtain ⟨⟨id, peer⟩, departed, rfl⟩ := List.mem_map.1 leaves
      exact h.behind id peer (lookup_departed.1 (mem_toPairs.1 departed)).1 c
  · intro name c
    rw [known_round fresh]
    exact h.balance name c

lemma Balanced.usageTick (h : m.Balanced days) {clock : Nat × Nat}
    (exact : m.Exact calendar (.usageTick clock)) :
    (m.step calendar setup (.usageTick clock)).Balanced days := by
  have upToDate : ∀ id peer, m.server.active.lookup id = some peer →
      (m.step calendar setup (.usageTick clock)).history.last id = peer.stats :=
    fun _ _ found => UsageHistory.last_record found
  refine ⟨h.bounded, ?_, h.retired, ?_⟩
  · intro id peer found c
    rw [upToDate id peer found]
  · intro name c
    refine (h.recorded_record exact name c).trans ?_
    rw [known]
    congr 2
    refine weigh_congr ?_
    intro id peer found
    simp only [upToDate id peer found]

lemma Balanced.step (h : m.Balanced days) {turn : Turn} (fresh : m.Fresh setup turn)
    (exact : m.Exact calendar turn) : (m.step calendar setup turn).Balanced days := by
  cases turn with
  | round event => exact h.round fresh
  | usageTick clock => exact h.usageTick exact

/-- Sessions that left are up to date iff each was when it left. -/
lemma retired_settled_iff (turns : List Turn) :
    (∀ gone ∈ (run (step calendar setup) m turns).retired, ∀ c : Counter,
        c.of gone.recorded = c.of gone.stats) ↔
      (∀ gone ∈ m.retired, ∀ c : Counter, c.of gone.recorded = c.of gone.stats) ∧
        EachStep (step calendar setup) (Settled setup) m turns := by
  induction turns generalizing m with
  | nil => simp
  | cons turn rest ih =>
    rw [run_cons, ih, eachStep_cons, ← and_assoc]
    refine and_congr_left' ?_
    cases turn with
    | round event => exact List.forall_mem_append
    | usageTick clock => exact (and_iff_left trivial).symm

/-- The sums over what left are right only if all was known. -/
lemma Balanced.left_eq_iff (h : m.Balanced days) :
    (∀ name c, left Retired.recorded m.retired name c = left Retired.stats m.retired name c) ↔
      ∀ gone ∈ m.retired, ∀ c : Counter, c.of gone.recorded = c.of gone.stats := by
  refine ⟨?_, ?_⟩
  · intro all gone mem c
    have each := (sum_map_eq_iff ?_).1 (all gone.name c) gone mem
    · rw [if_pos rfl, if_pos rfl] at each
      exact each
    · intro other listed
      split
      · exact h.retired other listed c
      · exact Nat.le_refl 0
  · intro all name c
    rw [left, left]
    congr 1
    apply List.map_congr_left
    intro gone mem
    rw [all gone mem c]

/-- After the record that ends a run, the history has gained the counters of all sessions of each
name if every session is new to the last record when it comes and up to date when it leaves; the
second condition is also necessary. -/
theorem usage_conserved_iff (calendar : Calendar) (setup : Setup) (config : ServerConfig)
    (identities : List PeerIdentity) (ca : Option CertificateAuthorityConfig) (retentionDays : UInt16)
    (days : Days) (turns : List Turn) (clock : Nat × Nat) (start m : Metered P)
    (begins : start = starting config identities ca retentionDays days)
    (reached : m = run (step calendar setup) start turns)
    (exact : EachStep (step calendar setup) (Exact calendar) start turns)
    (exactEnd : m.Exact calendar (.usageTick clock)) :
    (EachStep (step calendar setup) (fun m turn => m.Fresh setup turn ∧ m.Settled setup turn) start turns →
      ∀ name c, (m.shutdown calendar clock).days.recorded name c =
        days.recorded name c + m.total name c) ∧
    (EachStep (step calendar setup) (Fresh setup) start turns →
      (∀ name c, (m.shutdown calendar clock).days.recorded name c =
        days.recorded name c + m.total name c) →
      EachStep (step calendar setup) (Settled setup) start turns) := by
  have initially : start.Balanced days := by
    subst begins
    refine ⟨?_, ?_, ?_, ?_⟩
    · intro id peer found
      cases found
    · intro id peer found
      cases found
    · intro gone mem
      cases mem
    · intro name c
      rfl
  have settled : (∀ gone ∈ m.retired, ∀ c : Counter, c.of gone.recorded = c.of gone.stats) ↔
      EachStep (step calendar setup) (Settled setup) start turns := by
    subst reached begins
    refine (retired_settled_iff turns).trans (and_iff_right ?_)
    intro gone mem
    cases mem
  have conserved (fresh : EachStep (step calendar setup) (Fresh setup) start turns) :
      (∀ name c, (m.shutdown calendar clock).days.recorded name c =
        days.recorded name c + m.total name c) ↔
      EachStep (step calendar setup) (Settled setup) start turns := by
    have balanced : m.Balanced days := by
      subst reached
      exact run_invariant initially (fun _ _ h ok => h.step ok.1 ok.2) (fresh.and exact)
    rw [← settled, ← balanced.left_eq_iff]
    refine forall_congr' fun name => forall_congr' fun c => ?_
    rw [balanced.recorded_record exactEnd, total]
    omega
  refine ⟨fun both => ?_, fun fresh => (conserved fresh).1⟩
  exact (conserved (both.mono fun _ _ h => h.1)).2 (both.mono fun _ _ h => h.2)

section
open Primitives ServerLoop Trace

def firstDay : Calendar where
  utcDay := fun _ => "1970-01-01"
  parseDayNumber := fun day => if day = "1970-01-01" then some 0 else none

def metered : Metered transparent :=
  starting hostConfig [pinnedPeer] none 30 ∅

def farewell : List Event :=
  speaking pinnedFirst 0 [(.data, peerPacket), (.close, [])]

/-- The peer connects, sends a packet and closes, after the ticks. -/
def visit (ticks : List Turn) : List Turn :=
  (opening :: quietly (finishing :: farewell.take 1)).map .round ++ ticks ++
    (quietly (farewell.drop 1)).map .round

def afterVisit (ticks : List Turn) : Metered transparent :=
  run (step firstDay hostSetup) metered (visit ticks)

/-- The session is up to date if a tick comes before the close. -/
theorem usage_conserved_iff_ticked :
    EachStep (step firstDay hostSetup) (Fresh hostSetup) metered (visit [.usageTick (0, 0)]) ∧
      EachStep (step firstDay hostSetup) (Exact firstDay) metered (visit [.usageTick (0, 0)]) ∧
      (afterVisit [.usageTick (0, 0)]).Exact firstDay (.usageTick (0, 0)) ∧
      (afterVisit [.usageTick (0, 0)]).total "peer" .rxPayloadBytes = 20 ∧
      ∀ name c, ((afterVisit [.usageTick (0, 0)]).shutdown firstDay (0, 0)).days.recorded name c =
        Days.recorded ∅ name c + (afterVisit [.usageTick (0, 0)]).total name c := by
  have checked : EachStep (step firstDay hostSetup) (Fresh hostSetup) metered
        (visit [.usageTick (0, 0)]) ∧
      EachStep (step firstDay hostSetup) (Exact firstDay) metered (visit [.usageTick (0, 0)]) ∧
      (afterVisit [.usageTick (0, 0)]).Exact firstDay (.usageTick (0, 0)) ∧
      (afterVisit [.usageTick (0, 0)]).total "peer" .rxPayloadBytes = 20 ∧
      EachStep (step firstDay hostSetup) (Settled hostSetup) metered (visit [.usageTick (0, 0)]) := by
    decide +kernel
  obtain ⟨fresh, exact, exactEnd, received, settled⟩ := checked
  refine ⟨fresh, exact, exactEnd, received, ?_⟩
  exact (usage_conserved_iff firstDay hostSetup hostConfig [pinnedPeer] none 30 ∅ _ (0, 0) metered _
    rfl rfl exact exactEnd).1 (fresh.and settled)

/-- Without the tick 20 received bytes are in no day of the history. -/
theorem closed_session_unrecorded :
    EachStep (step firstDay hostSetup) (Fresh hostSetup) metered (visit []) ∧
      EachStep (step firstDay hostSetup) (Exact firstDay) metered (visit []) ∧
      (afterVisit []).Exact firstDay (.usageTick (0, 0)) ∧
      (afterVisit []).total "peer" .rxPayloadBytes = 20 ∧
      Days.recorded ∅ "peer" .rxPayloadBytes = 0 ∧
      ((afterVisit []).shutdown firstDay (0, 0)).days.recorded "peer" .rxPayloadBytes = 0 := by
  decide +kernel

end

end Metered
end Rvpn.Server
