import Rvpn.Lib.FixedWindow
import Rvpn.Server.Handshake

/-!
# The rate of cookie challenges

`CookieChallengeLimiter::allow` has a fixed-window counter for each source and one for all sources
together. Sources are forgotten by a pass that runs at most once a second, after their window is over.
The calls that are allowed are logged, and the log is what the counters are compared with.
-/

namespace Rvpn.Server
open FixedWindow

namespace CookieChallengeLimiter

/-- The counter of all sources together. -/
def globalEntry (limiter : CookieChallengeLimiter) : Option (Nat × Nat) :=
  limiter.global.1.map fun start => (start, limiter.global.2)

structure Sources (history : IpAddr → List Nat) (clock : Nat) (limiter : CookieChallengeLimiter) :
    Prop where
  covers : ∀ ip, Covers cookieSourceLimit (fromSecs 1) (history ip) clock (limiter.sources.lookup ip)
  capacity : limiter.sources.keys.length ≤ cookieSourceCapacity

/-- All sources together are counted. -/
def Global (history : List Nat) (clock : Nat) (limiter : CookieChallengeLimiter) : Prop :=
  Covers cookieGlobalLimit (fromSecs 1) history clock limiter.globalEntry

variable {limiter : CookieChallengeLimiter} {history history' : IpAddr → List Nat} {clock now : Nat}
  {ip : IpAddr}

lemma prune_global (limiter : CookieChallengeLimiter) (now : Nat) :
    (limiter.prune now).global = limiter.global := by
  unfold prune
  split
  · rfl
  · rfl

/-- The pass forgets sources whose window is over. -/
lemma Sources.prune (h : Sources history clock limiter) (ordered : clock ≤ now) :
    Sources history now (limiter.prune now) := by
  unfold CookieChallengeLimiter.prune
  split
  · refine ⟨?_, ?_⟩
    · intro ip
      have covers := (h.covers ip).later ordered
      rw [HashMap.lookup_retain]
      cases found : limiter.sources.lookup ip with
      | none =>
        rw [found] at covers
        exact covers
      | some window =>
        obtain ⟨start, count⟩ := window
        rw [found] at covers
        by_cases inside : now - start < fromSecs 1
        · rw [Option.filter_some, if_pos (decide_eq_true inside)]
          exact covers
        · rw [Option.filter_some, if_neg (by simpa using Nat.not_lt.1 inside)]
          have second : 0 < fromSecs 1 := by decide
          exact covers.forgotten (by omega)
    · have fewer : (HashMap.retain (fun _ entry => decide (now - entry.1 < fromSecs 1))
          limiter.sources).keys.length ≤ limiter.sources.keys.length :=
        (List.filter_sublist.map Sigma.fst).length_le
      exact fewer.trans h.capacity
  · exact ⟨fun ip => (h.covers ip).later ordered, h.capacity⟩

/-- What the part about the source does. -/
inductive SourceOutcome (limiter : CookieChallengeLimiter) (ip : IpAddr) (now : Nat) :
    Bool × CookieChallengeLimiter → Prop
  | refused : SourceOutcome limiter ip now (false, limiter)
  | charged (start count : Nat) (found : limiter.sources.lookup ip = some (start, count))
      (inside : now < start + fromSecs 1) (room : count < cookieSourceLimit) :
      SourceOutcome limiter ip now
        (true, { limiter with
          sources := HashMap.modify ip (fun _ => (start, count + 1)) limiter.sources })
  | renewed (start count : Nat) (found : limiter.sources.lookup ip = some (start, count))
      (ended : start + fromSecs 1 ≤ now) :
      SourceOutcome limiter ip now
        (true, { limiter with sources := HashMap.modify ip (fun _ => (now, 1)) limiter.sources })
  | added (absent : limiter.sources.lookup ip = none)
      (room : limiter.sources.keys.length < cookieSourceCapacity) :
      SourceOutcome limiter ip now
        (true, { limiter with sources := limiter.sources.insert ip (now, 1) })

lemma allowSource_outcome (limiter : CookieChallengeLimiter) (ip : IpAddr) (now : Nat) :
    SourceOutcome limiter ip now (limiter.allowSource ip now) := by
  have second : 0 < fromSecs 1 := by decide
  unfold allowSource
  split
  · next start count found =>
    split
    · exact .renewed start count found (by omega)
    · split
      · exact .refused
      · exact .charged start count found (by omega) (by omega)
  · next absent =>
    split
    · exact .refused
    · exact .added absent (by omega)

/-- The history of `ip` may have grown; the others are the same. -/
def GrownAt (ip : IpAddr) (now : Nat) (history history' : IpAddr → List Nat) : Prop :=
  Grown now (history ip) (history' ip) ∧ ∀ other ≠ ip, history' other = history other

lemma Sources.changed (h : Sources history now limiter) (grown : GrownAt ip now history history')
    {window : Nat × Nat} {limiter' : CookieChallengeLimiter}
    (covers : Covers cookieSourceLimit (fromSecs 1) (history' ip) now (some window))
    (lookup : ∀ other, limiter'.sources.lookup other =
      if other = ip then some window else limiter.sources.lookup other)
    (capacity : limiter'.sources.keys.length ≤ cookieSourceCapacity) :
    Sources history' now limiter' := by
  refine ⟨?_, capacity⟩
  intro other
  rw [lookup other]
  split
  · next same => exact same ▸ covers
  · next ne =>
    rw [grown.2 other ne]
    exact h.covers other

lemma Sources.allow (h : Sources history now limiter) {result : Bool × CookieChallengeLimiter}
    (outcome : SourceOutcome limiter ip now result) (allowed : result.1 = true)
    (grown : GrownAt ip now history history') :
    Sources history' now result.2 ∧ result.2.global = limiter.global := by
  have here := h.covers ip
  cases outcome with
  | refused => cases allowed
  | charged start count found inside room =>
    rw [found] at here
    refine ⟨h.changed grown (here.charged inside room grown.1)
      (HashMap.lookup_modify_found found _) ?_, rfl⟩
    exact (congrArg List.length (HashMap.keys_mapVal _ _)).trans_le h.capacity
  | renewed start count found ended =>
    have fresh : Covers cookieSourceLimit (fromSecs 1) (history' ip) now (some (now, 1)) := by
      refine here.renewed ?_ (by decide) (by decide) grown.1
      intro start' count' found'
      cases found.symm.trans found'
      exact ended
    refine ⟨h.changed grown fresh (HashMap.lookup_modify_found found _) ?_, rfl⟩
    exact (congrArg List.length (HashMap.keys_mapVal _ _)).trans_le h.capacity
  | added absent room =>
    have fresh : Covers cookieSourceLimit (fromSecs 1) (history' ip) now (some (now, 1)) := by
      refine here.renewed ?_ (by decide) (by decide) grown.1
      intro start' count' found'
      cases absent.symm.trans found'
    refine ⟨h.changed grown fresh (fun other => HashMap.lookup_insert_eq ip other _ _) ?_, rfl⟩
    rw [AList.keys_insert, List.length_cons]
    exact (Nat.succ_le_succ List.length_erase_le).trans room

lemma Global.allow {history history' : List Nat} (h : Global history now limiter)
    (grown : Grown now history history') : (limiter.allowGlobal now).2.sources = limiter.sources ∧
      ((limiter.allowGlobal now).1 = false → (limiter.allowGlobal now).2 = limiter) ∧
      ((limiter.allowGlobal now).1 = true → Global history' now (limiter.allowGlobal now).2) := by
  have second : 0 < fromSecs 1 := by decide
  unfold Global globalEntry at h
  unfold allowGlobal
  split
  · next start count eq =>
    rw [eq] at h
    split
    · next inside =>
      split
      · exact ⟨rfl, fun _ => rfl, nofun⟩
      · exact ⟨rfl, nofun, fun _ => h.charged (by omega) (by omega) grown⟩
    · next ended =>
      refine ⟨rfl, nofun, fun _ => h.renewed ?_ (by decide) (by decide) grown⟩
      intro start' count' found
      cases found
      omega
  · next count eq =>
    rw [eq] at h
    exact ⟨rfl, nofun, fun _ => h.renewed nofun (by decide) (by decide) grown⟩

/-- A refused call may be counted, but adds nothing to the history. -/
lemma allow_counted {total total' : List Nat} (sources : Sources history clock limiter)
    (all : Global total clock limiter) (ordered : clock ≤ now) {endpoint : SocketAddr}
    (grown : GrownAt endpoint.ip now history history') (grownAll : Grown now total total')
    (refused : (limiter.allow endpoint now).1 = false → history' = history ∧ total' = total) :
    Sources history' now (limiter.allow endpoint now).2 ∧
      Global total' now (limiter.allow endpoint now).2 := by
  have pruned := sources.prune ordered
  have all : Global total now (limiter.prune now) := by
    unfold Global globalEntry at all ⊢
    rw [prune_global]
    exact all.later ordered
  have outcome := allowSource_outcome (limiter.prune now) endpoint.ip now
  unfold allow at refused ⊢
  generalize (limiter.prune now).allowSource endpoint.ip now = result at outcome refused ⊢
  obtain ⟨answer, limiter'⟩ := result
  cases answer with
  | false =>
    cases outcome with
    | refused =>
      obtain ⟨rfl, rfl⟩ := refused rfl
      exact ⟨pruned, all⟩
  | true =>
    obtain ⟨sources', same⟩ := pruned.allow outcome rfl grown
    have all : Global total now limiter' := by
      unfold Global globalEntry at all ⊢
      rw [show limiter'.global = (limiter.prune now).global from same]
      exact all
    obtain ⟨kept, refuses, allows⟩ := all.allow grownAll
    simp only at refused ⊢
    refine ⟨⟨kept ▸ sources'.covers, kept ▸ sources'.capacity⟩, ?_⟩
    cases answer : (limiter'.allowGlobal now).1 with
    | false =>
      obtain ⟨-, rfl⟩ := refused answer
      rw [refuses answer]
      exact all
    | true => exact allows answer

end CookieChallengeLimiter

/-- A call of `allow`, with the time that it reads. -/
structure ChallengeCall where
  endpoint : SocketAddr
  now : Nat

/-- The limiter, the last call's time, and each allowed source and time. -/
structure WatchedLimiter where
  limiter : CookieChallengeLimiter
  clock : Nat
  allowed : List (IpAddr × Nat)

namespace WatchedLimiter
open CookieChallengeLimiter

def start : WatchedLimiter where
  limiter := .default
  clock := 0
  allowed := []

def step (w : WatchedLimiter) (call : ChallengeCall) : WatchedLimiter :=
  let (answer, limiter) := w.limiter.allow call.endpoint call.now
  { limiter := limiter
    clock := call.now
    allowed := if answer then (call.endpoint.ip, call.now) :: w.allowed else w.allowed }

/-- The clock does not go back between calls. -/
def Ordered (w : WatchedLimiter) (call : ChallengeCall) : Prop :=
  w.clock ≤ call.now

def times (w : WatchedLimiter) : List Nat :=
  w.allowed.map Prod.snd

def timesOf (w : WatchedLimiter) (ip : IpAddr) : List Nat :=
  (w.allowed.filter fun call => decide (call.1 = ip)).map Prod.snd

/-- The counters count what was allowed. -/
structure Policed (w : WatchedLimiter) : Prop where
  sources : Sources w.timesOf w.clock w.limiter
  global : Global w.times w.clock w.limiter

lemma policed_start : start.Policed :=
  ⟨⟨fun _ => .inl rfl, Nat.zero_le _⟩, .inl rfl⟩

lemma grown_step (w : WatchedLimiter) (call : ChallengeCall) :
    GrownAt call.endpoint.ip call.now w.timesOf (w.step call).timesOf ∧
      Grown call.now w.times (w.step call).times ∧
      ((w.limiter.allow call.endpoint call.now).1 = false →
        (w.step call).timesOf = w.timesOf ∧ (w.step call).times = w.times) := by
  have allowed : (w.step call).allowed = if (w.limiter.allow call.endpoint call.now).1
      then (call.endpoint.ip, call.now) :: w.allowed else w.allowed := rfl
  unfold GrownAt Grown times
  cases answer : (w.limiter.allow call.endpoint call.now).1 with
  | false =>
    rw [answer, if_neg (by decide)] at allowed
    have same : (w.step call).timesOf = w.timesOf := by
      funext ip
      rw [timesOf, allowed, timesOf]
    rw [allowed]
    exact ⟨⟨.inl (congrFun same _), fun other _ => congrFun same other⟩, .inl rfl, fun _ => ⟨same, rfl⟩⟩
  | true =>
    rw [answer, if_pos rfl] at allowed
    refine ⟨⟨.inr ?_, ?_⟩, .inr ?_, nofun⟩
    · rw [timesOf, allowed, List.filter_cons_of_pos (by simp)]
      rfl
    · intro other ne
      rw [timesOf, allowed, List.filter_cons_of_neg (by simpa using ne.symm)]
      rfl
    · rw [allowed]
      rfl

lemma Policed.step {w : WatchedLimiter} (policed : w.Policed) {call : ChallengeCall}
    (ordered : w.Ordered call) : (w.step call).Policed := by
  obtain ⟨grown, grownAll, refused⟩ := w.grown_step call
  obtain ⟨sources, global⟩ :=
    allow_counted policed.sources policed.global ordered grown grownAll refused
  exact ⟨sources, global⟩

lemma within_timesOf (w : WatchedLimiter) (ip : IpAddr) (length t : Nat) :
    within length (w.timesOf ip) t = (w.allowed.filter fun call =>
      decide (call.1 = ip ∧ t ≤ call.2 ∧ call.2 < t + length)).length := by
  unfold within timesOf
  rw [List.countP_map, List.countP_filter, List.countP_eq_length_filter]
  refine congrArg List.length (List.filter_congr fun call _ => ?_)
  simp [Bool.and_comm]

lemma within_times (w : WatchedLimiter) (length t : Nat) :
    within length w.times t = (w.allowed.filter fun call =>
      decide (t ≤ call.2 ∧ call.2 < t + length)).length := by
  unfold within times
  rw [List.countP_map, List.countP_eq_length_filter]
  rfl

/-- At times that do not go back, each second allows at most eight calls from one address and two
hundred in all; there are never more than 8192 sources. -/
theorem challenges_rate_limited (calls : List ChallengeCall)
    (ordered : EachStep step Ordered start calls) : Always step
      (fun w => (∀ t, (∀ ip, (w.allowed.filter fun call =>
            decide (call.1 = ip ∧ t ≤ call.2 ∧ call.2 < t + fromSecs 1)).length ≤ 8) ∧
          (w.allowed.filter fun call => decide (t ≤ call.2 ∧ call.2 < t + fromSecs 1)).length ≤ 200) ∧
        w.limiter.sources.keys.length ≤ 8192) start calls := by
  have policed : Always step Policed start calls :=
    always_of_eachStep policed_start (fun _ _ policed ok => policed.step ok) ordered
  refine policed.mono ?_
  intro w policed
  refine ⟨?_, policed.sources.capacity⟩
  intro t
  refine ⟨?_, ?_⟩
  · intro ip
    rw [← within_timesOf]
    exact (policed.sources.covers ip).within_le t
  · rw [← within_times]
    exact policed.global.within_le t

def callAt (now : Nat) : ChallengeCall where
  endpoint := ⟨.v4 (Bytes.zero 4), 1000⟩
  now := now

/-- Of five calls at once four are allowed, and one a second later. -/
theorem challenges_rate_limited_burst :
    (run step start (List.replicate 5 (callAt 0))).allowed.length = 4 ∧
      (run step start (List.replicate 5 (callAt 0) ++ [callAt (fromSecs 1)])).allowed.length = 5 ∧
      (run step start (List.replicate 5 (callAt 0) ++ [callAt (fromSecs 1)])).limiter.sources.keys.length
        ≤ 8192 := by
  refine ⟨by decide +kernel, by decide +kernel, ?_⟩
  have ordered : EachStep step Ordered start
      (List.replicate 5 (callAt 0) ++ [callAt (fromSecs 1)]) := by
    simp only [List.replicate, List.cons_append, List.nil_append, eachStep_cons]
    exact ⟨le_rfl, le_rfl, le_rfl, le_rfl, le_rfl, Nat.zero_le _, eachStep_nil⟩
  exact (challenges_rate_limited _ ordered).last.2

end WatchedLimiter
end Rvpn.Server
