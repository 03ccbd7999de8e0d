import Rvpn.Lib.Turnover
import Rvpn.Server.Accounts

/-!
# The usage history

`UsageHistory` keeps, for each day and each peer name, the sum of five counters. `record` takes the
sessions of the server and adds what the counters of each have gained since the last record; the
counters at the last record are kept in `previous`, by session id.
-/

namespace Rvpn.Server
open Config Crypto Protocol

variable {P : Primitives}

/-- `UsageTotals`: the counters of a peer on a day. -/
structure UsageTotals where
  rxPackets : Nat := 0
  rxPayloadBytes : Nat := 0
  txPackets : Nat := 0
  txPayloadBytes : Nat := 0
  droppedPackets : Nat := 0
  deriving DecidableEq

/-- The value of a counter in the history. -/
def Counter.kept : Counter → UsageTotals → Nat
  | .rxPackets, totals => totals.rxPackets
  | .rxPayloadBytes, totals => totals.rxPayloadBytes
  | .txPackets, totals => totals.txPackets
  | .txPayloadBytes, totals => totals.txPayloadBytes
  | .droppedPackets, totals => totals.droppedPackets

instance {p : Counter → Prop} [DecidablePred p] : Decidable (∀ c, p c) :=
  decidable_of_iff
    (p .rxPackets ∧ p .rxPayloadBytes ∧ p .txPackets ∧ p .txPayloadBytes ∧ p .droppedPackets)
    ⟨fun ⟨rx, rxBytes, tx, txBytes, dropped⟩ c => by
      cases c with
      | rxPackets => exact rx
      | rxPayloadBytes => exact rxBytes
      | txPackets => exact tx
      | txPayloadBytes => exact txBytes
      | droppedPackets => exact dropped,
    fun all => ⟨all _, all _, all _, all _, all _⟩⟩

namespace UsageTotals

def add (target delta : UsageTotals) : UsageTotals where
  rxPackets := saturatingAdd target.rxPackets delta.rxPackets
  rxPayloadBytes := saturatingAdd target.rxPayloadBytes delta.rxPayloadBytes
  txPackets := saturatingAdd target.txPackets delta.txPackets
  txPayloadBytes := saturatingAdd target.txPayloadBytes delta.txPayloadBytes
  droppedPackets := saturatingAdd target.droppedPackets delta.droppedPackets

/-- What the counters have gained, with `saturating_sub`. -/
def gained (stats previous : PeerStats) : UsageTotals where
  rxPackets := stats.rxPackets - previous.rxPackets
  rxPayloadBytes := stats.rxPayloadBytes - previous.rxPayloadBytes
  txPackets := stats.txPackets - previous.txPackets
  txPayloadBytes := stats.txPayloadBytes - previous.txPayloadBytes
  droppedPackets := stats.droppedPackets - previous.droppedPackets

lemma kept_add (c : Counter) (target delta : UsageTotals) :
    c.kept (target.add delta) = saturatingAdd (c.kept target) (c.kept delta) := by
  cases c with
  | _ => rfl

lemma kept_gained (c : Counter) (stats previous : PeerStats) :
    c.kept (gained stats previous) = c.of stats - c.of previous := by
  cases c with
  | _ => rfl

end UsageTotals

/-- The names of the days: `utc_day` and `parse_day_number`. -/
structure Calendar where
  utcDay : Nat → String
  parseDayNumber : String → Option Nat

abbrev Days := HashMap String (HashMap String UsageTotals)

namespace Days

def cell (days : Days) (day name : String) : UsageTotals :=
  (((days.lookup day).getD ∅).lookup name).getD {}

/-- The totals are added to, with `or_default` for the day and for the name. -/
def book (days : Days) (day name : String) (delta : UsageTotals) : Days :=
  AList.insert day (AList.insert name ((days.cell day name).add delta) ((days.lookup day).getD ∅)) days

def recorded (days : Days) (name : String) (c : Counter) : Nat :=
  HashMap.total (fun names => c.kept ((names.lookup name).getD {})) days

variable {days : Days} {day name : String} {delta : UsageTotals}

lemma cell_book (name' : String) : (days.book day name delta).cell day name' =
      if name' = name then (days.cell day name).add delta else days.cell day name' := by
  rw [cell, book, AList.lookup_insert, Option.getD_some, HashMap.lookup_insert_eq]
  split
  · rfl
  · rfl

lemma kept_default (c : Counter) : c.kept {} = 0 := by
  cases c with
  | _ => rfl

lemma recorded_book {c : Counter} (fits : c.kept (days.cell day name) + c.kept delta ≤ u64Max)
    (name' : String) : (days.book day name delta).recorded name' c =
      days.recorded name' c + if name' = name then c.kept delta else 0 := by
  have sums := HashMap.total_insert (k := day) (m := days)
    (f := fun names => c.kept ((names.lookup name').getD {}))
    (AList.insert name ((days.cell day name).add delta) ((days.lookup day).getD ∅))
  have before : (days.lookup day).elim 0 (fun names => c.kept ((names.lookup name').getD {})) =
      c.kept (days.cell day name') := by
    rw [cell]
    cases days.lookup day with
    | none => exact (kept_default c).symm
    | some names => rfl
  rw [before, HashMap.lookup_insert_eq] at sums
  rw [recorded, recorded, book]
  split
  · next same =>
    subst same
    rw [if_pos rfl, Option.getD_some, UsageTotals.kept_add, saturatingAdd, Nat.min_eq_left fits] at sums
    omega
  · next other =>
    rw [if_neg other] at sums
    exact Nat.add_right_cancel sums

end Days

/-- `UsageHistory`, with the contents of its file. -/
structure UsageHistory where
  retentionDays : UInt16
  days : Days
  previous : HashMap SessionId (String × PeerStats)
  dirty : Bool

namespace UsageHistory

/-- The history at the end of `UsageHistory::open`. -/
def opened (retentionDays : UInt16) (days : Days) : UsageHistory where
  retentionDays := retentionDays
  days := days
  previous := ∅
  dirty := false

def last (history : UsageHistory) (id : SessionId) : PeerStats :=
  ((history.previous.lookup id).map Prod.snd).getD PeerStats.default

/-- One session in `record`: its gain is booked, its counters noted. -/
def recordPeer (day : String) (state : UsageHistory × HashMap SessionId (String × PeerStats))
    (entry : SessionId × ActivePeer P) : UsageHistory × HashMap SessionId (String × PeerStats) :=
  let (history, current) := state
  let (id, peer) := entry
  let delta := UsageTotals.gained peer.stats (history.last id)
  let history :=
    if delta.rxPackets ≠ 0 ∨ delta.rxPayloadBytes ≠ 0 ∨ delta.txPackets ≠ 0 ∨
        delta.txPayloadBytes ≠ 0 ∨ delta.droppedPackets ≠ 0 then
      { history with days := history.days.book day peer.identity.name delta, dirty := true }
    else history
  (history, AList.insert id (peer.identity.name, peer.stats) current)

/-- Whether `prune` keeps a day. -/
def retains (calendar : Calendar) (today : Nat) (history : UsageHistory) (day : String) : Bool :=
  match calendar.parseDayNumber day with
  | some number => decide (number ≤ today ∧ today - number < history.retentionDays.toNat)
  | none => false

/-- `UsageHistory::prune`. -/
def prune (calendar : Calendar) (today : Nat) (history : UsageHistory) : UsageHistory :=
  let days := HashMap.retain (fun day _ => history.retains calendar today day) history.days
  { history with
    days := days
    dirty := history.dirty || decide (days.keys.length ≠ history.days.keys.length) }

def recordAll (day : String) (peers : List (SessionId × ActivePeer P)) (history : UsageHistory) :
    UsageHistory × HashMap SessionId (String × PeerStats) :=
  peers.foldl (recordPeer day) (history, ∅)

/-- `record`; the clock is read for the day, and again to prune. -/
def record (calendar : Calendar) (clock : Nat × Nat) (peers : List (SessionId × ActivePeer P))
    (history : UsageHistory) : UsageHistory :=
  let (history, current) := history.recordAll (calendar.utcDay clock.1) peers
  prune calendar clock.2 { history with previous := current }

/-- What a session owes a name: its gain, if it has that name. -/
def share (entry : SessionId × ActivePeer P) (history : UsageHistory) (name : String) (c : Counter) :
    Nat :=
  if entry.2.identity.name = name then c.of entry.2.stats - c.of (history.last entry.1) else 0

/-- What a name is due for its sessions. -/
def due (peers : List (SessionId × ActivePeer P)) (history : UsageHistory) (name : String)
    (c : Counter) : Nat :=
  (peers.map fun entry => history.share entry name c).sum

def Fits (day : String) (peers : List (SessionId × ActivePeer P)) (history : UsageHistory) : Prop :=
  ∀ entry ∈ peers, ∀ c : Counter, c.kept (history.days.cell day entry.2.identity.name) +
    history.due peers entry.2.identity.name c ≤ u64Max

/-- A record in which no sum saturates and no day is pruned. -/
def Exact (calendar : Calendar) (clock : Nat × Nat) (peers : List (SessionId × ActivePeer P))
    (history : UsageHistory) : Prop :=
  history.Fits (calendar.utcDay clock.1) peers ∧
    ∀ day ∈ (history.recordAll (calendar.utcDay clock.1) peers).1.days.keys,
      history.retains calendar clock.2 day = true

instance (day : String) (peers : List (SessionId × ActivePeer P)) (history : UsageHistory) :
    Decidable (history.Fits day peers) :=
  inferInstanceAs (Decidable (∀ _ ∈ _, _))

instance (calendar : Calendar) (clock : Nat × Nat) (peers : List (SessionId × ActivePeer P))
    (history : UsageHistory) : Decidable (history.Exact calendar clock peers) :=
  inferInstanceAs (Decidable (_ ∧ _))

section
variable {day : String} {state : UsageHistory × HashMap SessionId (String × PeerStats)}
  {entry : SessionId × ActivePeer P} {peers : List (SessionId × ActivePeer P)}

lemma recordPeer_eq (day : String)
    (state : UsageHistory × HashMap SessionId (String × PeerStats)) (entry : SessionId × ActivePeer P) :
    ∃ days dirty,
      (recordPeer day state entry).1 = { state.1 with days := days, dirty := dirty } := by
  unfold recordPeer
  simp only
  split
  · exact ⟨_, _, rfl⟩
  · exact ⟨_, _, rfl⟩

lemma recordPeer_last (id : SessionId) :
    (recordPeer day state entry).1.last id = state.1.last id := by
  obtain ⟨_, _, eq⟩ := recordPeer_eq day state entry
  rw [eq]
  rfl

lemma recordPeer_retains (calendar : Calendar) (today : Nat) (day' : String) :
    (recordPeer day state entry).1.retains calendar today day' =
      state.1.retains calendar today day' := by
  obtain ⟨_, _, eq⟩ := recordPeer_eq day state entry
  rw [eq]
  rfl

lemma recordPeer_current : (recordPeer day state entry).2 =
      AList.insert entry.1 (entry.2.identity.name, entry.2.stats) state.2 :=
  rfl

/-- A session that gained nothing is not booked, which makes no difference. -/
lemma recordPeer_days (c : Counter) (fits : c.kept (state.1.days.cell day entry.2.identity.name) +
      state.1.share entry entry.2.identity.name c ≤ u64Max) (name : String) :
    c.kept ((recordPeer day state entry).1.days.cell day name) =
        c.kept (state.1.days.cell day name) + state.1.share entry name c ∧
      (recordPeer day state entry).1.days.recorded name c =
        state.1.days.recorded name c + state.1.share entry name c := by
  rw [share, if_pos rfl, ← UsageTotals.kept_gained] at fits
  rw [share, ← UsageTotals.kept_gained]
  unfold recordPeer
  simp only
  split
  · refine ⟨?_, ?_⟩
    · rw [Days.cell_book]
      by_cases same : name = entry.2.identity.name
      · subst same
        rw [if_pos rfl, if_pos rfl, UsageTotals.kept_add, saturatingAdd, Nat.min_eq_left fits]
      · rw [if_neg same, if_neg (Ne.symm same), Nat.add_zero]
    · rw [Days.recorded_book fits]
      simp only [eq_comm (a := name)]
  · next nothing =>
    have none : c.kept (UsageTotals.gained entry.2.stats (state.1.last entry.1)) = 0 := by
      simp only [not_or, not_not] at nothing
      obtain ⟨rx, rxBytes, tx, txBytes, dropped⟩ := nothing
      cases c with
      | rxPackets => exact rx
      | rxPayloadBytes => exact rxBytes
      | txPackets => exact tx
      | txPayloadBytes => exact txBytes
      | droppedPackets => exact dropped
    rw [none]
    refine ⟨?_, ?_⟩
    · split
      · rfl
      · rfl
    · split
      · rfl
      · rfl

lemma due_cons (history : UsageHistory) (name : String) (c : Counter) :
    history.due (entry :: peers) name c = history.share entry name c + history.due peers name c := by
  rw [due, List.map_cons, List.sum_cons]
  rfl

lemma due_recordPeer (name : String) (c : Counter) :
    (recordPeer day state entry).1.due peers name c = state.1.due peers name c := by
  simp only [due, share, recordPeer_last]

lemma Fits.recordPeer (fits : state.1.Fits day (entry :: peers)) :
    (recordPeer day state entry).1.Fits day peers := by
  intro other mem c
  have whole := fits other (List.mem_cons_of_mem _ mem) c
  have here := fits entry List.mem_cons_self c
  rw [due_cons] at whole here
  rw [(recordPeer_days c (by omega) _).1, due_recordPeer]
  omega

lemma foldl_recorded (fits : state.1.Fits day peers) (name : String) (c : Counter) :
    (peers.foldl (recordPeer day) state).1.days.recorded name c =
      state.1.days.recorded name c + state.1.due peers name c := by
  induction peers generalizing state with
  | nil => rfl
  | cons entry rest ih =>
    have here := fits entry List.mem_cons_self c
    rw [due_cons] at here
    rw [List.foldl_cons, ih fits.recordPeer, due_recordPeer, (recordPeer_days c (by omega) name).2,
      due_cons, Nat.add_assoc]

lemma foldl_current_other {id : SessionId} (absent : id ∉ peers.map Prod.fst) :
    (peers.foldl (recordPeer day) state).2.lookup id = state.2.lookup id := by
  induction peers generalizing state with
  | nil => rfl
  | cons entry rest ih =>
    rw [List.map_cons, List.mem_cons, not_or] at absent
    rw [List.foldl_cons, ih absent.2, recordPeer_current, AList.lookup_insert_ne absent.1]

lemma foldl_current (distinct : (peers.map Prod.fst).Nodup) {id : SessionId} {peer : ActivePeer P}
    (mem : (id, peer) ∈ peers) :
    (peers.foldl (recordPeer day) state).2.lookup id = some (peer.identity.name, peer.stats) := by
  induction peers generalizing state with
  | nil => exact absurd mem List.not_mem_nil
  | cons entry rest ih =>
    obtain ⟨new, distinct⟩ := List.nodup_cons.1 distinct
    rw [List.foldl_cons]
    rcases List.mem_cons.1 mem with rfl | mem
    · rw [foldl_current_other new, recordPeer_current, AList.lookup_insert]
    · exact ih distinct mem

lemma foldl_retains (calendar : Calendar) (today : Nat) (day' : String) :
    (peers.foldl (recordPeer day) state).1.retains calendar today day' =
      state.1.retains calendar today day' := by
  induction peers generalizing state with
  | nil => rfl
  | cons entry rest ih => rw [List.foldl_cons, ih, recordPeer_retains]

end

section
variable {calendar : Calendar} {clock : Nat × Nat} {active : ActivePeers P} {history : UsageHistory}

/-- A record that is exact adds to the sum of every name what it is due. -/
lemma recorded_record (exact : history.Exact calendar clock active.toPairs) (name : String)
    (c : Counter) : (history.record calendar clock active.toPairs).days.recorded name c =
      history.days.recorded name c + history.due active.toPairs name c := by
  obtain ⟨fits, kept⟩ := exact
  have added : (history.recordAll (calendar.utcDay clock.1)
      active.toPairs).1.days.recorded name c =
        history.days.recorded name c + history.due active.toPairs name c :=
    foldl_recorded fits name c
  rw [← added]
  show HashMap.total _ (HashMap.retain _ _) = HashMap.total _ _
  refine HashMap.total_retain ?_
  intro day names found dropped
  have stays := kept day (AList.mem_keys.1 (HashMap.mem_iff_lookup.2 ⟨names, found⟩))
  have same : (history.recordAll (calendar.utcDay clock.1)
      active.toPairs).1.retains calendar clock.2 day =
        history.retains calendar clock.2 day :=
    foldl_retains calendar clock.2 day
  cases (same.trans stays).symm.trans dropped

lemma last_record {id : SessionId} {peer : ActivePeer P} (found : active.lookup id = some peer) :
    (history.record calendar clock active.toPairs).last id = peer.stats := by
  have distinct : (active.toPairs.map Prod.fst).Nodup := by
    rw [HashMap.toPairs, List.map_map]
    exact active.keys_nodup
  have noted : (history.recordAll (calendar.utcDay clock.1) active.toPairs).2.lookup id =
      some (peer.identity.name, peer.stats) :=
    foldl_current distinct (HashMap.mem_toPairs.2 found)
  show ((AList.lookup id (history.recordAll _ _).2).map Prod.snd).getD _ = _
  rw [noted]
  rfl

end
end UsageHistory
end Rvpn.Server
