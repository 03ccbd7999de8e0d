import Rvpn.Config.Server
import Rvpn.Lib.Run

/-!
# Replacing the DNS forwarder

The task of `DnsReloader` records a configuration and holds the forwarder that it started. A failed
replacement tries to bring the recorded configuration back. When that does not work no forwarder runs,
but the recorded configuration stays, and a request for it is then answered with `Ok`.
-/

namespace Rvpn.Server
open Config

/-- A forwarder, by the configuration that it was started with. -/
structure RunningServer where
  config : DnsConfig
  deriving DecidableEq

/-- The variables of the task of `DnsReloader`. -/
structure DnsReloader where
  config : DnsConfig
  running : Option RunningServer
  deriving DecidableEq

/-- How the attempts to stop and to start a forwarder end. -/
structure ForwarderOutcomes where
  shutdown : Except String Unit
  startNext : Except String Unit
  startCurrent : Except String Unit

/-- The error of `replace_forwarder`: the failed attempt's, in context. -/
structure ReplaceError where
  context : Option String
  source : String
  deriving DecidableEq

/-- `start_forwarder`. -/
def startForwarder (config : DnsConfig) (outcome : Except String Unit) :
    Except String (Option RunningServer) :=
  if config.upstreams.isEmpty then .ok none else outcome.map fun _ => some ⟨config⟩

/-- `stop_forwarder`. -/
def stopForwarder (running : Option RunningServer) (outcome : Except String Unit) :
    Except String Unit × Option RunningServer :=
  match running with
  | some _ => (outcome, none)
  | none => (.ok (), none)

namespace DnsReloader

/-- `DnsReloader::start`, up to the spawned task. -/
def start (initial : DnsConfig) (outcome : Except String Unit) : Except ReplaceError DnsReloader :=
  match startForwarder initial outcome with
  | .ok running => .ok { config := initial, running := running }
  | .error error => .error { context := some "starting embedded DNS forwarder", source := error }

def restoredContext : String :=
  "new DNS configuration failed; previous configuration restored"

/-- The context of a failure after which it is not. -/
def notRestoredContext (restoreError : String) : String :=
  "new DNS configuration failed and restoring the previous configuration also failed: " ++
    restoreError

/-- `replace_forwarder`. -/
def replaceForwarder (d : DnsReloader) (next : DnsConfig) (outcomes : ForwarderOutcomes) :
    Except ReplaceError Unit × DnsReloader :=
  if d.config = next then (.ok (), d)
  else
    match stopForwarder d.running outcomes.shutdown with
    | (.error error, running) =>
      (.error { context := none, source := error }, { d with running := running })
    | (.ok (), running) =>
      match startForwarder next outcomes.startNext with
      | .ok replacement => (.ok (), { config := next, running := replacement })
      | .error error =>
        match startForwarder d.config outcomes.startCurrent with
        | .ok restored =>
          (.error { context := some restoredContext, source := error },
            { d with running := restored })
        | .error restoreError =>
          (.error { context := some (notRestoredContext restoreError), source := error },
            { d with running := running })

/-- The two contexts differ, whatever the second error says. -/
lemma notRestoredContext_ne (restoreError : String) :
    notRestoredContext restoreError ≠ restoredContext := by
  intro same
  -- a space against a semicolon after the first 28 characters
  have texts : (notRestoredContext restoreError).toList = restoredContext.toList := by rw [same]
  unfold notRestoredContext restoredContext at texts
  rw [String.toList_append] at texts
  have start := congrArg (List.take 29) texts
  rw [List.take_append_of_le_length (by decide +kernel)] at start
  revert start
  decide +kernel

/-- The ways in which a request can end. -/
inductive Replaced (d : DnsReloader) (next : DnsConfig) :
    Except ReplaceError Unit × DnsReloader → Prop
  | recorded (same : d.config = next) : Replaced d next (.ok (), d)
  | unstopped (other : d.config ≠ next) (held : d.running ≠ none) (error : String) :
      Replaced d next (.error { context := none, source := error }, { d with running := none })
  | replaced (other : d.config ≠ next) {outcome : Except String Unit}
      {running : Option RunningServer} (started : startForwarder next outcome = .ok running) :
      Replaced d next (.ok (), { config := next, running := running })
  | restored (other : d.config ≠ next) {outcome : Except String Unit}
      {running : Option RunningServer} (started : startForwarder d.config outcome = .ok running)
      (error : String) :
      Replaced d next
        (.error { context := some restoredContext, source := error }, { d with running := running })
  | lost (other : d.config ≠ next) {outcome : Except String Unit} {restoreError : String}
      (failed : startForwarder d.config outcome = .error restoreError) (error : String) :
      Replaced d next
        (.error { context := some (notRestoredContext restoreError), source := error },
          { d with running := none })

lemma replaced_replaceForwarder (d : DnsReloader) (next : DnsConfig) (outcomes : ForwarderOutcomes) :
    Replaced d next (d.replaceForwarder next outcomes) := by
  unfold replaceForwarder stopForwarder
  split
  · next same => exact .recorded same
  · next other =>
    cases held : d.running with
    | none =>
      simp only
      split
      · next started => exact .replaced other started
      · split
        · next started => exact .restored other started _
        · next failed => exact .lost other failed _
    | some server =>
      cases outcomes.shutdown with
      | error error => exact .unstopped other (by rw [held]; simp) error
      | ok u =>
        simp only
        split
        · next started => exact .replaced other started
        · split
          · next started => exact .restored other started _
          · next failed => exact .lost other failed _

/-- A forwarder runs iff the configuration has upstreams, started with it. -/
structure Serves (d : DnsReloader) (config : DnsConfig) : Prop where
  enabled : d.running.isSome ↔ config.upstreams ≠ []
  own : ∀ server, d.running = some server → server.config = config

/-- No forwarder runs, although the recorded configuration has upstreams. -/
def Down (d : DnsReloader) : Prop :=
  d.running = none ∧ d.config.upstreams ≠ []

lemma Down.not_serves {d : DnsReloader} (down : d.Down) : ¬ d.Serves d.config := by
  intro serves
  have enabled := serves.enabled.2 down.2
  rw [down.1] at enabled
  cases enabled

lemma serves_of_started {config : DnsConfig} {outcome : Except String Unit}
    {running : Option RunningServer} (started : startForwarder config outcome = .ok running) :
    Serves ⟨config, running⟩ config := by
  unfold startForwarder at started
  split at started
  · next empty =>
    cases started
    refine ⟨?_, ?_⟩
    · refine ⟨?_, fun some => absurd (List.isEmpty_iff.1 empty) some⟩
      intro present
      cases present
    · intro server present
      cases present
  · next some =>
    cases outcome with
    | error e => cases started
    | ok u =>
      cases started
      refine ⟨⟨fun _ empty => some (List.isEmpty_iff.2 empty), fun _ => rfl⟩, ?_⟩
      intro server same
      cases same
      rfl

lemma upstreams_of_failed {config : DnsConfig} {outcome : Except String Unit} {error : String}
    (failed : startForwarder config outcome = .error error) : config.upstreams ≠ [] := by
  unfold startForwarder at failed
  split at failed
  · cases failed
  · next some => exact fun empty => some (List.isEmpty_iff.2 empty)

end DnsReloader

/-- A command and its outcome. -/
structure DnsAnswer where
  requested : DnsConfig
  result : Except ReplaceError Unit
  reloader : DnsReloader

namespace DnsAnswer
open DnsReloader

/-- The next `Replace` command. -/
def step (a : DnsAnswer) (command : DnsConfig × ForwarderOutcomes) : DnsAnswer :=
  let (result, reloader) := a.reloader.replaceForwarder command.1 command.2
  { requested := command.1, result := result, reloader := reloader }

/-- After `Ok` the requested configuration is served. -/
def Right (a : DnsAnswer) : Prop :=
  a.result = .ok () → a.reloader.Serves a.requested

/-- The request failed, and the recorded configuration was not brought back. -/
def Unrestored (a : DnsAnswer) : Prop :=
  ∃ error, a.result = .error error ∧ error.context ≠ some restoredContext

/-- What every answer leaves behind. -/
structure Recorded (a : DnsAnswer) : Prop where
  requested : a.result = .ok () → a.reloader.config = a.requested
  restored : ∀ error, a.result = .error error → error.context = some restoredContext →
    a.reloader.Serves a.reloader.config
  down : a.Unrestored → a.reloader.Down
  state : a.reloader.Serves a.reloader.config ∨ a.reloader.Down

lemma Recorded.step {a : DnsAnswer} (h : a.Recorded) (command : DnsConfig × ForwarderOutcomes) :
    (a.step command).Recorded := by
  have ended := replaced_replaceForwarder a.reloader command.1 command.2
  unfold DnsAnswer.step
  generalize a.reloader.replaceForwarder command.1 command.2 = result at ended
  cases ended with
  | recorded same =>
    refine ⟨fun _ => same, ?_, ?_, h.state⟩
    · intro error failed
      cases failed
    · rintro ⟨error, failed, _⟩
      cases failed
  | unstopped other held error =>
    -- a forwarder was running, so the recorded configuration has upstreams
    have serves := h.state.resolve_right fun down => held down.1
    have down : DnsReloader.Down { a.reloader with running := none } :=
      ⟨rfl, serves.enabled.1 (Option.isSome_iff_ne_none.2 held)⟩
    refine ⟨?_, ?_, fun _ => down, .inr down⟩
    · intro ok
      cases ok
    · intro error failed restored
      cases failed
      cases restored
  | replaced other started =>
    refine ⟨fun _ => rfl, ?_, ?_, .inl (serves_of_started started)⟩
    · intro error failed
      cases failed
    · rintro ⟨error, failed, _⟩
      cases failed
  | restored other started error =>
    have serves := serves_of_started started
    refine ⟨?_, fun _ _ _ => serves, ?_, .inl serves⟩
    · intro ok
      cases ok
    · rintro ⟨error, failed, context⟩
      cases failed
      exact absurd rfl context
  | lost other failed error =>
    have down : DnsReloader.Down { a.reloader with running := none } :=
      ⟨rfl, upstreams_of_failed failed⟩
    refine ⟨?_, ?_, fun _ => down, .inr down⟩
    · intro ok
      cases ok
    · intro error failed restored
      cases failed
      exact absurd (Option.some.inj restored) (notRestoredContext_ne _)

/-- After a right answer and no unrestored failure the record is served. -/
lemma Recorded.serves {a : DnsAnswer} (h : a.Recorded) (right : a.Right) (intact : ¬ a.Unrestored) :
    a.reloader.Serves a.reloader.config := by
  cases answer : a.result with
  | ok u =>
    rw [h.requested answer]
    exact right answer
  | error error =>
    refine h.restored error answer ?_
    by_contra context
    exact intact ⟨error, answer, context⟩

/-- An answer is right unless for the record after an unrestored failure. -/
lemma right_step {a : DnsAnswer} (h : a.Recorded) (right : a.Right)
    (command : DnsConfig × ForwarderOutcomes) :
    (a.step command).Right ↔ (a.Unrestored → command.1 ≠ a.reloader.config) := by
  have ended := replaced_replaceForwarder a.reloader command.1 command.2
  unfold DnsAnswer.step Right
  generalize a.reloader.replaceForwarder command.1 command.2 = result at ended
  cases ended with
  | recorded same =>
    refine ⟨?_, ?_⟩
    · intro served unrestored _
      refine (h.down unrestored).not_serves ?_
      rw [same]
      exact served rfl
    · intro allowed _
      have intact : ¬ a.Unrestored := fun unrestored => allowed unrestored same.symm
      rw [← same]
      exact h.serves right intact
  | unstopped other held error => exact ⟨fun _ _ => other.symm, fun _ ok => by cases ok⟩
  | replaced other started =>
    refine ⟨fun _ _ => other.symm, fun _ _ => ?_⟩
    exact serves_of_started started
  | restored other started error => exact ⟨fun _ _ => other.symm, fun _ ok => by cases ok⟩
  | lost other failed error => exact ⟨fun _ _ => other.symm, fun _ ok => by cases ok⟩

/-- Every answer is right exactly when no request is for the recorded configuration directly after an
unrestored failure. -/
theorem replaced_iff (initial : DnsConfig) (outcome : Except String Unit) (d : DnsReloader)
    (started : DnsReloader.start initial outcome = .ok d)
    (commands : List (DnsConfig × ForwarderOutcomes)) :
    Always step Right { requested := initial, result := .ok (), reloader := d } commands ↔
      EachStep step (fun a command => a.Unrestored → command.1 ≠ a.reloader.config)
        { requested := initial, result := .ok (), reloader := d } commands := by
  have serves : d.config = initial ∧ d.Serves initial := by
    unfold DnsReloader.start at started
    split at started
    · next running eq =>
      cases started
      exact ⟨rfl, serves_of_started eq⟩
    · cases started
  refine always_iff_eachStep (I := Recorded) ?_ (fun _ => serves.2)
    (fun a command h => h.step command) fun a command h right => right_step h right command
  refine ⟨fun _ => serves.1, ?_, ?_, ?_⟩
  · intro error failed
    cases failed
  · rintro ⟨error, failed, _⟩
    cases failed
  · rw [serves.1]
    exact .inl serves.2

section
def upstreamConfig (last : UInt8) : DnsConfig where
  upstreams := [{ ip := .v4 (Bytes.ofList 4 [192, 0, 2, last]), port := 53 }]

def succeeding : ForwarderOutcomes :=
  ⟨.ok (), .ok (), .ok ()⟩

def failing : ForwarderOutcomes :=
  ⟨.ok (), .error "address in use", .error "address in use"⟩

def serving : DnsAnswer where
  requested := upstreamConfig 1
  result := .ok ()
  reloader := { config := upstreamConfig 1, running := some ⟨upstreamConfig 1⟩ }

/-- One replacement works, one fails and cannot be undone, a third works. -/
theorem replaced_iff_succeeding : Always step Right serving
      [(upstreamConfig 2, succeeding), (upstreamConfig 3, failing), (upstreamConfig 1, succeeding)] := by
  refine (replaced_iff (upstreamConfig 1) (.ok ()) serving.reloader rfl _).2 ?_
  refine eachStep_cons.2 ⟨fun _ => ?_, eachStep_cons.2 ⟨fun _ => ?_, eachStep_cons.2 ⟨fun _ => ?_, eachStep_nil⟩⟩⟩
  · decide +kernel
  · decide +kernel
  · decide +kernel

/-- The recorded configuration is answered with `Ok`, and nothing runs. -/
theorem recorded_request_starts_nothing :
    DnsReloader.start (upstreamConfig 1) (.ok ()) = .ok serving.reloader ∧
      (run step serving [(upstreamConfig 2, failing), (upstreamConfig 1, succeeding)]).result =
        .ok () ∧
      (run step serving [(upstreamConfig 2, failing), (upstreamConfig 1, succeeding)]).reloader.running =
        none ∧
      ¬ Always step Right serving [(upstreamConfig 2, failing), (upstreamConfig 1, succeeding)] := by
  have answer : (run step serving
        [(upstreamConfig 2, failing), (upstreamConfig 1, succeeding)]).result = .ok () ∧
      (run step serving
        [(upstreamConfig 2, failing), (upstreamConfig 1, succeeding)]).reloader.running = none := by
    decide +kernel
  obtain ⟨ok, stopped⟩ := answer
  refine ⟨rfl, ok, stopped, ?_⟩
  intro right
  have enabled := (right.last ok).enabled.2 (List.cons_ne_nil _ _)
  rw [stopped] at enabled
  cases enabled

end

end DnsAnswer
end Rvpn.Server
