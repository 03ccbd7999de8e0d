import Rvpn.Lib.Tally
import Rvpn.Lib.Transparent
import Rvpn.Server.Steps

/-!
# The table of pending handshakes

`PendingHandshakes` keeps the entries by session id and, beside them, the number of entries of each
source. `Counted` says that the numbers are exact. `Ledger` is the table with a record of what was sent:
each response that `begin_initial` or `begin_rekey` sends has a number of its own, and the record has
that number once for each time the response is sent.
-/

namespace Rvpn.Server
open Config Crypto HashMap Protocol
variable {P : Primitives}

namespace PendingHandshakes

def entriesFrom (p : PendingHandshakes P) (source : SocketAddr) : Nat :=
  p.entries.values.countP fun state => decide (state.endpoint = source)

/-- `retain` with a stateful closure: its answer for each id. -/
def retainBy (p : PendingHandshakes P) (keep : SessionId → PendingHandshake P → Bool) :
    PendingHandshakes P where
  entries := HashMap.retain keep p.entries
  perSource := p.entries.toPairs.foldl
    (fun perSource entry =>
      if keep entry.1 entry.2 then perSource else decrementCount perSource entry.2.endpoint)
    p.perSource

lemma retain_eq_retainBy (p : PendingHandshakes P) (keep : PendingHandshake P → Bool) :
    p.retain keep = p.retainBy fun _ state => keep state := by
  simp only [retain, retainBy, HashMap.values, HashMap.toPairs, List.foldl_map]

/-- `per_source` has the number of entries of each source that has any. -/
def Counted (p : PendingHandshakes P) : Prop :=
  Tally.Exact p.perSource p.entriesFrom

lemma Counted.default : (default P).Counted :=
  Tally.exact_empty

variable {p : PendingHandshakes P}

lemma Counted.countFor (counted : p.Counted) (source : SocketAddr) :
    p.countFor source = p.entriesFrom source :=
  counted.getD source

lemma decrementCount_eq : decrementCount = Tally.decrement :=
  rfl

lemma entriesFrom_remove {id : SessionId} {state : PendingHandshake P}
    (found : p.entries.lookup id = some state) (source : SocketAddr) : p.entriesFrom source =
      (p.remove id).entriesFrom source + if source = state.endpoint then 1 else 0 := by
  have perm := (perm_erase found).map fun e => e.2
  rw [entriesFrom, HashMap.values, perm.countP_eq]
  exact Tally.occurrences_cons PendingHandshake.endpoint state _ source

lemma remove_absent {id : SessionId} (absent : p.entries.lookup id = none) : p.remove id = p := by
  have same : p.entries.erase id = p.entries := by
    apply AList.ext
    exact List.kerase_of_notMem_keys (AList.lookup_eq_none.1 absent)
  simp only [remove, absent, same]

lemma entriesFrom_remove_le (p : PendingHandshakes P) (id : SessionId) (source : SocketAddr) :
    (p.remove id).entriesFrom source ≤ p.entriesFrom source := by
  cases found : p.entries.lookup id with
  | none => rw [remove_absent found]
  | some state => exact entriesFrom_remove found source ▸ Nat.le_add_right _ _

lemma entriesFrom_insert (p : PendingHandshakes P) (id : SessionId) (state : PendingHandshake P)
    (source : SocketAddr) : (p.insert id state).entriesFrom source =
      (p.remove id).entriesFrom source + if source = state.endpoint then 1 else 0 :=
  Tally.occurrences_cons PendingHandshake.endpoint state _ source

lemma entriesFrom_retainBy_le (p : PendingHandshakes P)
    (keep : SessionId → PendingHandshake P → Bool) (source : SocketAddr) :
    (p.retainBy keep).entriesFrom source ≤ p.entriesFrom source :=
  (List.filter_sublist.map _).countP_le

lemma Counted.remove {p : PendingHandshakes P} (counted : p.Counted) (id : SessionId) :
    (p.remove id).Counted := by
  cases found : p.entries.lookup id with
  | none =>
    rw [remove_absent found]
    exact counted
  | some state =>
    have dropped : (p.remove id).perSource = Tally.decrement p.perSource state.endpoint := by
      simp only [PendingHandshakes.remove, found, decrementCount_eq]
    rw [Counted, dropped]
    exact Tally.Exact.decrement counted (entriesFrom_remove found)

/-- An overwritten entry is first taken from its source's count. -/
lemma Counted.insert {p : PendingHandshakes P} (counted : p.Counted) (id : SessionId)
    (state : PendingHandshake P) : (p.insert id state).Counted :=
  Tally.Exact.increment (counted.remove id) (p.entriesFrom_insert id state)

lemma Counted.retainBy (counted : p.Counted) (keep : SessionId → PendingHandshake P → Bool) :
    (p.retainBy keep).Counted := by
  let label (entry : SessionId × PendingHandshake P) : SocketAddr := entry.2.endpoint
  have entries : ∀ (m : HashMap SessionId (PendingHandshake P)) source,
      m.values.countP (fun state => decide (state.endpoint = source)) =
        0 + Tally.occurrences label m.toPairs source := by
    intro m source
    rw [Nat.zero_add, Tally.occurrences, HashMap.values, HashMap.toPairs, List.countP_map,
      List.countP_map]
    rfl
  have before : Tally.Exact p.perSource fun source =>
      0 + Tally.occurrences label p.entries.toPairs source := by
    simp only [← entries]
    exact counted
  have after := before.filter label fun entry => keep entry.1 entry.2
  have kept : p.entries.toPairs.filter (fun entry => keep entry.1 entry.2) =
      HashMap.toPairs (HashMap.retain keep p.entries) := by
    rw [HashMap.toPairs, List.filter_map]
    rfl
  simp only [kept, ← entries] at after
  exact after

inductive TableEvent (P : Primitives) where
  | insert (id : SessionId) (state : PendingHandshake P)
  | remove (id : SessionId)
  | retain (keep : SessionId → PendingHandshake P → Bool)

def step (p : PendingHandshakes P) : TableEvent P → PendingHandshakes P
  | .insert id state => p.insert id state
  | .remove id => p.remove id
  | .retain keep => p.retainBy keep

lemma Counted.step {p : PendingHandshakes P} (counted : p.Counted) (event : TableEvent P) :
    (p.step event).Counted := by
  cases event with
  | insert id state => exact counted.insert id state
  | remove id => exact counted.remove id
  | retain keep => exact counted.retainBy keep

/-- The table is counted and no source has more than `limit` entries. -/
structure Within (limit : Nat) (p : PendingHandshakes P) : Prop where
  counted : p.Counted
  few : ∀ source, p.entriesFrom source ≤ limit

lemma Within.default (limit : Nat) : (default P).Within limit :=
  ⟨.default, fun _ => Nat.zero_le limit⟩

lemma Within.remove {limit : Nat} {p : PendingHandshakes P} (h : p.Within limit) (id : SessionId) :
    (p.remove id).Within limit :=
  ⟨h.counted.remove id, fun source => (p.entriesFrom_remove_le id source).trans (h.few source)⟩

lemma Within.retain {limit : Nat} {p : PendingHandshakes P} (h : p.Within limit)
    (keep : PendingHandshake P → Bool) : (p.retain keep).Within limit := by
  rw [retain_eq_retainBy]
  exact ⟨h.counted.retainBy _,
    fun source => (p.entriesFrom_retainBy_le _ source).trans (h.few source)⟩

lemma Within.mapVal {limit : Nat} (h : p.Within limit)
    {f : SessionId → PendingHandshake P → PendingHandshake P}
    (same : ∀ id state, (f id state).endpoint = state.endpoint) :
    Within limit { p with entries := HashMap.mapVal f p.entries } := by
  have kept : entriesFrom { p with entries := HashMap.mapVal f p.entries } = p.entriesFrom := by
    funext source
    simp only [entriesFrom, HashMap.values, HashMap.mapVal, List.countP_map, Function.comp_def, same]
  refine ⟨?_, ?_⟩
  · rw [Counted, kept]
    exact h.counted
  · rw [kept]
    exact h.few

lemma Within.insert {limit : Nat} {p : PendingHandshakes P} (h : p.Within limit) (id : SessionId)
    {state : PendingHandshake P} (room : p.countFor state.endpoint < limit) :
    (p.insert id state).Within limit := by
  refine ⟨h.counted.insert id state, ?_⟩
  intro source
  have rest := p.entriesFrom_remove_le id source
  rw [entriesFrom_insert]
  split
  · next same =>
    rw [h.counted.countFor, ← same] at room
    omega
  · exact rest.trans (h.few source)

end PendingHandshakes

/-- Each response is sent once with its entry, while the source has room. -/
inductive Responds (endpoint : SocketAddr) (limit : Nat) :
    PendingHandshakes P → List Packet → PendingHandshakes P → Prop
  | nil (p : PendingHandshakes P) : Responds endpoint limit p [] p
  | cons {p p' : PendingHandshakes P} {packets : List Packet} (state : PendingHandshake P)
      (source : state.endpoint = endpoint) (first : state.attempts = 1)
      (room : p.countFor endpoint < limit)
      (rest : Responds endpoint limit (p.insert state.packet.header.sessionId state) packets p') :
      Responds endpoint limit p (state.packet :: packets) p'

section
variable {endpoint : SocketAddr} {limit : Nat}

lemma Responds.append {p p' p'' : PendingHandshakes P} {packets packets' : List Packet}
    (h : Responds endpoint limit p packets p') (h' : Responds endpoint limit p' packets' p'') :
    Responds endpoint limit p (packets ++ packets') p'' := by
  induction h with
  | nil => exact h'
  | cons state source first room _ ih => exact .cons state source first room (ih h')

lemma Responds.within {p p' : PendingHandshakes P} {packets : List Packet}
    (h : Responds endpoint limit p packets p') (within : p.Within limit) : p'.Within limit := by
  induction h with
  | nil => exact within
  | cons state source _ room _ ih => exact ih (within.insert _ (source ▸ room))

lemma tryRespond_responds {pending : PendingHandshakes P} (initiation : HandshakeMessage)
    (source : PendingSource) (auth : AuthConfig) (draw : HandshakeDraw)
    (room : pending.countFor endpoint < limit) : Responds endpoint limit pending
      (tryRespond pending endpoint initiation source auth draw).2
      (tryRespond pending endpoint initiation source auth draw).1 := by
  obtain same | ⟨id, handshake, response, _, _, eq⟩ :=
    tryRespond_cases pending endpoint initiation source auth draw
  · rw [same]
    exact .nil pending
  · rw [eq]
    exact .cons (respondedEntry endpoint source id handshake response) rfl rfl room (.nil _)

variable (endpoint limit)

lemma tryIdentities_responds (initiation : HandshakeMessage)
    (numbered : List (PeerIdentity × HandshakeDraw)) (pending : PendingHandshakes P) :
    Responds endpoint limit pending (tryIdentities endpoint initiation limit numbered pending).2
      (tryIdentities endpoint initiation limit numbered pending).1 := by
  induction numbered generalizing pending with
  | nil => exact .nil pending
  | cons entry rest ih =>
    obtain ⟨identity, draw⟩ := entry
    rw [tryIdentities]
    split
    · exact .nil pending
    · next room =>
      exact (tryRespond_responds initiation _ _ _ (Nat.lt_of_not_le room)).append (ih _)

lemma beginInitial_responds (identities : List PeerIdentity)
    (certificateAuthority : Option CertificateAuthorityConfig) (pending : PendingHandshakes P)
    (initiation : HandshakeMessage) (draws : Nat → HandshakeDraw) : Responds endpoint limit pending
      (beginInitial identities certificateAuthority pending endpoint initiation limit draws).2
      (beginInitial identities certificateAuthority pending endpoint initiation limit draws).1 := by
  have known := tryIdentities_responds endpoint limit initiation
    (identities.zip ((List.range identities.length).map draws)) pending
  have outcome := beginInitial_outcome pending endpoint initiation limit identities
    certificateAuthority draws
  generalize beginInitial identities certificateAuthority pending endpoint initiation limit draws =
    result at outcome
  cases outcome with
  | refused => exact .nil pending
  | known => exact known
  | authority _ _ ca auth result _ _ eq left =>
    subst eq
    exact known.append (tryRespond_responds initiation _ _ _ left)

lemma beginRekey_responds (pending : PendingHandshakes P) (current : ActivePeer P)
    (initiation : HandshakeMessage) (draw : HandshakeDraw) : Responds endpoint limit pending
      (beginRekey pending endpoint current initiation limit draw).2
      (beginRekey pending endpoint current initiation limit draw).1 := by
  have outcome := beginRekey_outcome pending endpoint initiation limit current draw
  generalize beginRekey pending endpoint current initiation limit draw = result at outcome
  cases outcome with
  | ignored => exact .nil pending
  | answered handshake response room =>
    exact .cons (rekeyEntry endpoint current handshake response) rfl rfl room (.nil _)

end

lemma finishPending_pending (parser : AddressParser) (pending : PendingHandshakes P)
    (active : ActivePeers P) (endpoint : SocketAddr) (packet : Packet)
    (gracePeriod rxRate : Nat) (clock : Clock) :
    (finishPending parser pending active endpoint packet gracePeriod rxRate clock).pending = pending ∨
      (finishPending parser pending active endpoint packet gracePeriod rxRate clock).pending =
        pending.remove packet.header.sessionId := by
  obtain ⟨pending', same, eq⟩ | ⟨_, _, _, _, completes⟩ :=
    finishPending_cases parser pending active endpoint packet gracePeriod rxRate clock
  · rw [eq]
    exact same
  · rw [finishPending_of_completes completes]
    exact .inr rfl

inductive Call (P : Primitives) where
  | beginInitial (identities : List PeerIdentity)
      (certificateAuthority : Option CertificateAuthorityConfig) (endpoint : SocketAddr)
      (initiation : HandshakeMessage) (draws : Nat → HandshakeDraw)
  | beginRekey (endpoint : SocketAddr) (current : ActivePeer P) (initiation : HandshakeMessage)
      (draw : HandshakeDraw)
  | finishPending (parser : AddressParser) (active : ActivePeers P)
      (endpoint : SocketAddr) (packet : Packet) (gracePeriod rxRate : Nat) (clock : Clock)
  | retransmitPending

/-- The table, the number of each pending response, and those sent. -/
structure Ledger (P : Primitives) where
  pending : PendingHandshakes P
  number : SessionId → Nat
  sent : List Nat
  issued : Nat

namespace Ledger

/-- Nothing is pending and nothing was sent. -/
def empty (P : Primitives) : Ledger P where
  pending := .default P
  number := fun _ => 0
  sent := []
  issued := 0

/-- A new response is sent for the first time. -/
def issue (l : Ledger P) (packet : Packet) : Ledger P :=
  { l with
    number := fun id => if id = packet.header.sessionId then l.issued else l.number id
    sent := l.issued :: l.sent
    issued := l.issued + 1 }

lemma pending_foldl_issue (packets : List Packet) (l : Ledger P) :
    (packets.foldl issue l).pending = l.pending := by
  induction packets generalizing l with
  | nil => rfl
  | cons packet packets ih => exact ih (l.issue packet)

/-- One call, for a fixed limit for each source and a fixed retry limit. -/
def step (limit retryLimit : Nat) (l : Ledger P) : Call P → Ledger P
  | .beginInitial identities certificateAuthority endpoint initiation draws =>
    let (pending, sent) :=
      beginInitial identities certificateAuthority l.pending endpoint initiation limit draws
    sent.foldl issue { l with pending := pending }
  | .beginRekey endpoint current initiation draw =>
    let (pending, sent) := beginRekey l.pending endpoint current initiation limit draw
    sent.foldl issue { l with pending := pending }
  | .finishPending parser active endpoint packet gracePeriod rxRate clock =>
    { l with
      pending :=
        (finishPending parser l.pending active endpoint packet gracePeriod rxRate clock).pending }
  | .retransmitPending =>
    let (pending, sent) := retransmitPending l.pending retryLimit
    { l with
      pending := pending
      sent := sent.map (fun entry => l.number entry.2.header.sessionId) ++ l.sent }

/-- An entry's response has its own number, sent as often as it says. -/
structure Recorded (retryLimit : Nat) (l : Ledger P) : Prop where
  packet : ∀ {id state}, l.pending.entries.lookup id = some state →
    state.packet.header.sessionId = id
  attempts : ∀ {id state}, l.pending.entries.lookup id = some state →
    l.sent.count (l.number id) = state.attempts
  issued : ∀ {id state}, l.pending.entries.lookup id = some state → l.number id < l.issued
  distinct : ∀ {id id' state state'}, l.pending.entries.lookup id = some state →
    l.pending.entries.lookup id' = some state' → l.number id = l.number id' → id = id'
  known : ∀ n ∈ l.sent, n < l.issued
  bounded : ∀ n, l.sent.count n ≤ retryLimit

variable {retryLimit : Nat}

lemma Recorded.empty (retryLimit : Nat) : (empty P).Recorded retryLimit where
  packet := nofun
  attempts := nofun
  issued := nofun
  distinct := nofun
  known := nofun
  bounded := fun _ => Nat.zero_le retryLimit

lemma Recorded.drop {l : Ledger P} {pending : PendingHandshakes P} (h : l.Recorded retryLimit)
    (sub : ∀ {id state}, pending.entries.lookup id = some state →
      l.pending.entries.lookup id = some state) :
    Recorded retryLimit { l with pending := pending } where
  packet := fun found => h.packet (sub found)
  attempts := fun found => h.attempts (sub found)
  issued := fun found => h.issued (sub found)
  distinct := fun found found' => h.distinct (sub found) (sub found')
  known := h.known
  bounded := h.bounded

variable {l : Ledger P}

lemma Recorded.issue {state : PendingHandshake P} (h : l.Recorded retryLimit)
    (retry : 1 ≤ retryLimit) (first : state.attempts = 1) : Recorded retryLimit (Ledger.issue
      { l with pending := l.pending.insert state.packet.header.sessionId state } state.packet) := by
  have fresh : l.sent.count l.issued = 0 :=
    List.count_eq_zero.2 fun mem => Nat.lt_irrefl _ (h.known _ mem)
  constructor
  case packet =>
    intro id other found
    obtain ⟨_, kept⟩ | ⟨rfl, rfl⟩ := lookup_pending_insert found
    · exact h.packet kept
    · rfl
  case attempts =>
    intro id other found
    obtain ⟨ne, kept⟩ | ⟨rfl, rfl⟩ := lookup_pending_insert found
    · -- the number of another entry is older than the new one
      have older : l.issued ≠ l.number id := (h.issued kept).ne'
      simp only [Ledger.issue, if_neg ne, List.count_cons_of_ne older]
      exact h.attempts kept
    · simp only [Ledger.issue, if_pos, List.count_cons_self, fresh, first]
  case issued =>
    intro id other found
    obtain ⟨ne, kept⟩ | ⟨rfl, rfl⟩ := lookup_pending_insert found
    · simp only [Ledger.issue, if_neg ne]
      exact Nat.lt_succ_of_lt (h.issued kept)
    · simp only [Ledger.issue, if_pos, Nat.lt_succ_self]
  case distinct =>
    intro id id' other other' found found' same
    obtain ⟨ne, kept⟩ | ⟨rfl, rfl⟩ := lookup_pending_insert found
    · obtain ⟨ne', kept'⟩ | ⟨rfl, rfl⟩ := lookup_pending_insert found'
      · simp only [Ledger.issue, if_neg ne, if_neg ne'] at same
        exact h.distinct kept kept' same
      · simp only [Ledger.issue, if_neg ne, if_pos] at same
        exact absurd same (h.issued kept).ne
    · obtain ⟨ne', kept'⟩ | ⟨rfl, rfl⟩ := lookup_pending_insert found'
      · simp only [Ledger.issue, if_neg ne', if_pos] at same
        exact absurd same (h.issued kept').ne'
      · rfl
  case known =>
    intro n mem
    rcases List.mem_cons.1 mem with rfl | mem
    · exact Nat.lt_succ_self _
    · exact Nat.lt_succ_of_lt (h.known n mem)
  case bounded =>
    intro n
    by_cases new : l.issued = n
    · subst new
      simp only [Ledger.issue, List.count_cons_self, fresh]
      exact retry
    · simp only [Ledger.issue, List.count_cons_of_ne new]
      exact h.bounded n

lemma Recorded.responds {endpoint : SocketAddr} {limit : Nat} {p p' : PendingHandshakes P}
    {packets : List Packet} (responds : Responds endpoint limit p packets p')
    (h : l.Recorded retryLimit) (retry : 1 ≤ retryLimit) (table : l.pending = p) :
    Recorded retryLimit (packets.foldl Ledger.issue { l with pending := p' }) := by
  -- the entry of a response is inserted before its number is recorded, one response after the other
  induction responds generalizing l with
  | nil p =>
    subst table
    exact h
  | cons state _ first _ _ ih =>
    subst table
    exact ih (h.issue retry first) rfl

def numbers (l : Ledger P) : List Nat :=
  l.pending.entries.values.map fun state => l.number state.packet.header.sessionId

lemma Recorded.mem_numbers (h : l.Recorded retryLimit) {n : Nat} :
    n ∈ l.numbers ↔ ∃ id state, l.pending.entries.lookup id = some state ∧ l.number id = n := by
  simp only [numbers, List.mem_map, mem_values]
  refine ⟨?_, ?_⟩
  · rintro ⟨state, ⟨id, found⟩, rfl⟩
    exact ⟨id, state, found, by rw [h.packet found]⟩
  · rintro ⟨id, state, found, rfl⟩
    exact ⟨state, ⟨id, found⟩, by rw [h.packet found]⟩

lemma Recorded.numbers_nodup (h : l.Recorded retryLimit) : l.numbers.Nodup := by
  have eq : l.numbers = l.pending.entries.keys.map l.number := by
    simp only [numbers, HashMap.values, AList.keys, List.keys, List.map_map]
    apply List.map_congr_left
    intro entry mem
    have found := mem_lookup_entries.2 mem
    exact congrArg l.number (h.packet found)
  rw [eq]
  refine List.Nodup.map_on ?_ l.pending.entries.keys_nodup
  intro id mem id' mem' same
  obtain ⟨state, found⟩ := mem_iff_lookup.1 (AList.mem_keys.2 mem)
  obtain ⟨state', found'⟩ := mem_iff_lookup.1 (AList.mem_keys.2 mem')
  exact h.distinct found found' same

lemma Recorded.count_again (h : l.Recorded retryLimit) {id : SessionId} {state : PendingHandshake P}
    (found : l.pending.entries.lookup id = some state) :
    (l.numbers ++ l.sent).count (l.number id) = state.attempts + 1 := by
  have mem : l.number id ∈ l.numbers := h.mem_numbers.2 ⟨id, state, found, rfl⟩
  rw [List.count_append, List.count_eq_one_of_mem h.numbers_nodup mem, h.attempts found,
    Nat.add_comm]

/-- Every entry is sent once more, if all have attempts left. -/
lemma Recorded.retransmit (h : l.Recorded retryLimit)
    (left : ∀ {id state}, l.pending.entries.lookup id = some state → state.attempts < retryLimit) :
    Recorded retryLimit
      { l with
        pending :=
          { l.pending with
            entries := HashMap.mapVal (fun _ state => { state with attempts := state.attempts + 1 })
              l.pending.entries }
        sent := l.numbers ++ l.sent } := by
  have before : ∀ {id state}, (HashMap.mapVal (fun (_ : SessionId) (state : PendingHandshake P) =>
      { state with attempts := state.attempts + 1 }) l.pending.entries).lookup id = some state →
      ∃ old, l.pending.entries.lookup id = some old ∧
        state = { old with attempts := old.attempts + 1 } := by
    intro id state found
    rw [lookup_mapVal] at found
    obtain ⟨old, was, rfl⟩ := Option.map_eq_some_iff.1 found
    exact ⟨old, was, rfl⟩
  constructor
  case packet =>
    intro id state found
    obtain ⟨old, was, rfl⟩ := before found
    show old.packet.header.sessionId = id
    exact h.packet was
  case attempts =>
    intro id state found
    obtain ⟨old, was, rfl⟩ := before found
    exact h.count_again was
  case issued =>
    intro id state found
    obtain ⟨old, was, rfl⟩ := before found
    exact h.issued was
  case distinct =>
    intro id id' state state' found found' same
    obtain ⟨old, was, rfl⟩ := before found
    obtain ⟨old', was', rfl⟩ := before found'
    exact h.distinct was was' same
  case known =>
    intro n mem
    rcases List.mem_append.1 mem with mem | mem
    · obtain ⟨id, state, found, rfl⟩ := h.mem_numbers.1 mem
      exact h.issued found
    · exact h.known n mem
  case bounded =>
    intro n
    by_cases mem : n ∈ l.numbers
    · obtain ⟨id, state, found, rfl⟩ := h.mem_numbers.1 mem
      exact (h.count_again found).trans_le (left found)
    · rw [List.count_append, List.count_eq_zero.2 mem, Nat.zero_add]
      exact h.bounded n

variable {limit : Nat}

lemma within_step (h : l.pending.Within limit) (call : Call P) :
    (l.step limit retryLimit call).pending.Within limit := by
  cases call with
  | beginInitial identities certificateAuthority endpoint initiation draws =>
    simp only [step, pending_foldl_issue]
    exact (beginInitial_responds endpoint limit identities certificateAuthority l.pending initiation
      draws).within h
  | beginRekey endpoint current initiation draw =>
    simp only [step, pending_foldl_issue]
    exact (beginRekey_responds endpoint limit l.pending current initiation draw).within h
  | finishPending parser active endpoint packet gracePeriod rxRate clock =>
    simp only [step]
    obtain eq | eq := finishPending_pending parser l.pending active endpoint packet gracePeriod rxRate
      clock
    · rw [eq]
      exact h
    · rw [eq]
      exact h.remove _
  | retransmitPending => exact (h.retain _).mapVal fun _ _ => rfl

lemma recorded_step (h : l.Recorded retryLimit) (retry : 1 ≤ retryLimit) (call : Call P) :
    (l.step limit retryLimit call).Recorded retryLimit := by
  cases call with
  | beginInitial identities certificateAuthority endpoint initiation draws =>
    exact h.responds
      (beginInitial_responds endpoint limit identities certificateAuthority l.pending initiation
      draws) retry rfl
  | beginRekey endpoint current initiation draw =>
    exact h.responds (beginRekey_responds endpoint limit l.pending current initiation draw) retry rfl
  | finishPending parser active endpoint packet gracePeriod rxRate clock =>
    apply h.drop
    intro id state found
    obtain eq | eq := finishPending_pending parser l.pending active endpoint packet gracePeriod rxRate
      clock
    · rw [eq] at found
      exact found
    · rw [eq] at found
      exact (lookup_pending_remove found).2
  | retransmitPending =>
    have kept : ∀ {id state}, (l.pending.retain fun state =>
        decide (state.attempts < retryLimit)).entries.lookup id = some state →
        l.pending.entries.lookup id = some state ∧ state.attempts < retryLimit := by
      intro id state found
      simp only [PendingHandshakes.retain, lookup_retain, Option.filter_eq_some_iff,
        decide_eq_true_eq] at found
      exact found
    -- the entries without attempts left are dropped first
    have dropped := h.drop fun found => (kept found).1
    have sent := dropped.retransmit fun found => (kept found).2
    simp only [step, retransmitPending, List.map_map]
    exact sent

end Ledger

/-- In every run of the operations, `per_source` has the number of entries of each source that has
any, and no other. In every run of the calls, no source has more entries than its limit, and no
response is sent more often than the retry limit; a pending one was sent as often as its entry says.
-/
theorem pending_accounting (P : Primitives) (limit retryLimit : Nat) (retry : 1 ≤ retryLimit) :
    (∀ (events : List (PendingHandshakes.TableEvent P)) (source : SocketAddr),
      let p := run PendingHandshakes.step (PendingHandshakes.default P) events
      (0 < p.entriesFrom source → p.perSource.lookup source = some (p.entriesFrom source)) ∧
        (p.entriesFrom source = 0 → source ∉ p.perSource)) ∧
      ∀ calls : List (Call P), Always (Ledger.step limit retryLimit)
        (fun l => (∀ source, l.pending.entriesFrom source ≤ limit) ∧
          (∀ n, l.sent.count n ≤ retryLimit) ∧
          ∀ id state, l.pending.entries.lookup id = some state →
            l.sent.count (l.number id) = state.attempts) (Ledger.empty P) calls := by
  refine ⟨?_, ?_⟩
  · intro events source
    have counted : (run PendingHandshakes.step (PendingHandshakes.default P) events).Counted :=
      run_invariant' .default fun _ event h => h.step event
    refine ⟨?_, ?_⟩
    · intro some
      rw [counted source, if_neg some.ne']
    · intro none
      exact AList.lookup_eq_none.1 ((counted source).trans (if_pos none))
  · intro calls pre post eq
    have within : (run (Ledger.step limit retryLimit) (Ledger.empty P) pre).pending.Within limit :=
      run_invariant' (I := fun l : Ledger P => l.pending.Within limit) (.default limit)
        fun _ call h => Ledger.within_step h call
    have recorded : (run (Ledger.step limit retryLimit) (Ledger.empty P) pre).Recorded retryLimit :=
      run_invariant' (.empty retryLimit) fun _ call h => Ledger.recorded_step h retry call
    exact ⟨within.few, recorded.bounded, fun _ _ found => recorded.attempts found⟩

section Crowd
open Primitives

def crowdPeer (n : Nat) : PeerIdentity where
  name := toString n
  allowedIps := [.v4 (Bytes.ofList 4 (10 :: beBytes 3 n)) (Fin.last 32)]
  auth := .pinnedKey (keyOf 8) (Bytes.ofList 32 (beBytes 32 n))

def crowdInitiation : HandshakeMessage :=
  .initiation (keyOf 3) (keyOf 4) none (HandshakeMessage.computeMac1 transparent
    (AuthVerifier.mac1Key transparent (.pinnedKey (keyOf 8))) (keyOf 3) (keyOf 4) none)

def crowdDraw (n : Nat) : HandshakeDraw where
  sessionId := some (Bytes.ofList 16 (beBytes 16 n))
  ephemeral := some (keyOf 10)
  random := some (keyOf 11)

def crowdCalls : List (Call transparent) :=
  [.beginInitial [crowdPeer 0, crowdPeer 1] none clientEndpoint crowdInitiation crowdDraw,
    .retransmitPending, .retransmitPending]

/-- With a retry limit of two, both responses are sent twice. -/
theorem pending_accounting_crowd :
    (run (Ledger.step 8 2) (Ledger.empty transparent) crowdCalls).sent = [1, 0, 1, 0] ∧
      ∀ n, (run (Ledger.step 8 2) (Ledger.empty transparent) crowdCalls).sent.count n ≤ 2 := by
  refine ⟨by decide +kernel, ?_⟩
  have accounting := (pending_accounting transparent 8 2 (by decide)).2 crowdCalls
  exact (accounting crowdCalls [] (by simp)).2.1

end Crowd
end Rvpn.Server
