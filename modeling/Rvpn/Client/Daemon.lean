import Rvpn.Lib.Run

/-!
# The client daemon

Model of `Daemon` and `handle_connection` in `apps/rvpn-client/src/ipc.rs`, with the tasks that run
`run_client` of `main.rs`. A step is what happens between two awaits; no lock is held over an await.
`Status` and `Ping` change nothing and are left out.

A `Disconnect` empties the slot first and waits for the task after that, and in between another
connection finds the slot empty.
-/

namespace Rvpn.Client

/-- `ClientConfig`, as far as `run_client` itself reads it. -/
structure ClientConfig where
  defaultRoute : Bool
  defaultRouteV6 : Bool
  deriving DecidableEq

/-- The await of `run_client`: setup, data plane or teardown. -/
inductive ClientPhase where
  | resolving
  | installingKillSwitch
  | starting
  | configuring
  | running
  | restoring
  | removingKillSwitch
  | finished
  deriving DecidableEq

/-- A task spawned for `run_client`, with its shutdown channel. -/
structure ClientTask where
  config : ClientConfig
  shutdown : Bool
  phase : ClientPhase
  deriving DecidableEq

/-- How an await of `run_client` ends. -/
inductive Outcome where
  | ok
  | failed
  | panicked
  deriving DecidableEq

namespace ClientTask

/-- `install_bootstrap_kill_switch`. -/
def bootstrapKillSwitch (task : ClientTask) : Bool :=
  task.config.defaultRoute || task.config.defaultRouteV6

def leave (task : ClientTask) : ClientPhase :=
  if task.bootstrapKillSwitch then .removingKillSwitch else .finished

/-- `run_client` between awaits; only the data plane reads the signal. -/
def nextPhase (task : ClientTask) : Outcome → ClientPhase
  | .panicked => .finished
  | .failed =>
    match task.phase with
    | .resolving => .finished
    | .installingKillSwitch => .finished
    | .starting => task.leave
    | .configuring => .restoring
    | .running => .restoring
    | .restoring => task.leave
    | .removingKillSwitch => .finished
    | .finished => .finished
  | .ok =>
    match task.phase with
    | .resolving => .installingKillSwitch
    | .installingKillSwitch => .starting
    | .starting => .configuring
    | .configuring => .running
    | .running => if task.shutdown then .restoring else .running
    | .restoring => task.leave
    | .removingKillSwitch => .finished
    | .finished => .finished

def advance (task : ClientTask) (outcome : Outcome) : ClientTask :=
  { task with phase := task.nextPhase outcome }

def alive (task : ClientTask) : Bool :=
  decide (task.phase ≠ .finished)

lemma alive_of_advance {task : ClientTask} {outcome : Outcome}
    (h : (task.advance outcome).alive = true) : task.alive = true := by
  rw [alive, decide_eq_true_eq] at h ⊢
  intro ended
  apply h
  show task.nextPhase outcome = .finished
  cases outcome with
  | ok => rw [nextPhase, ended]
  | failed => rw [nextPhase, ended]
  | panicked => rfl

end ClientTask

/-- `Session`: sender and join handle of one task. -/
structure Session where
  handle : Nat
  deriving DecidableEq

/-- `Daemon`, with all its tasks, named by their places. -/
structure Daemon where
  session : Option Session
  tasks : List ClientTask
  deriving DecidableEq

namespace Daemon

/-- `Daemon::new`. -/
def new : Daemon where
  session := none
  tasks := []

/-- `Daemon::connect` under the lock; `files` are the configurations. -/
def connect (d : Daemon) (configPath : String) (files : String → Except String ClientConfig) :
    Except String Unit × Daemon :=
  if d.session.isSome then (.error "already connected; disconnect first", d)
  else
    match files configPath with
    | .error e => (.error e, d)
    | .ok config =>
      (.ok (),
        { session := some { handle := d.tasks.length }
          tasks := d.tasks ++ [{ config := config, shutdown := false, phase := .resolving }] })

/-- `Daemon::disconnect` up to the await: slot emptied, task signalled. -/
def disconnect (d : Daemon) : Except String Session × Daemon :=
  match d.session with
  | none => (.error "not connected", d)
  | some session =>
    (.ok session,
      { session := none
        tasks := d.tasks.modify session.handle fun task => { task with shutdown := true } })

def aliveTasks (d : Daemon) : Nat :=
  d.tasks.countP ClientTask.alive

end Daemon

inductive ControlRequest where
  | connect (configPath : String)
  | disconnect
  deriving DecidableEq

inductive ControlResponse where
  | ok
  | err (message : String)
  deriving DecidableEq

/-- The await of a connection: a request, the lock, or a task's end. -/
inductive Connection where
  | reading
  | locking (request : ControlRequest)
  | joining (handle : Nat)
  deriving DecidableEq

/-- The daemon and its connections, with the responses that were written. -/
structure Control where
  daemon : Daemon
  connections : Nat → Connection
  responses : List (Nat × ControlResponse)

inductive ControlEvent where
  | request (conn : Nat) (request : ControlRequest)
  | locked (conn : Nat) (files : String → Except String ClientConfig)
  | joined (conn : Nat)
  | progress (handle : Nat) (outcome : Outcome)

namespace Control

def start : Control where
  daemon := Daemon.new
  connections := fun _ => .reading
  responses := []

def goTo (c : Control) (conn : Nat) (state : Connection) : Control :=
  { c with connections := Function.update c.connections conn state }

def respond (c : Control) (conn : Nat) (response : ControlResponse) : Control :=
  { c.goTo conn .reading with responses := c.responses ++ [(conn, response)] }

def withDaemon (c : Control) (daemon : Daemon) : Control :=
  { c with daemon := daemon }

/-- `handle_connection` after the lock was granted. -/
def locked (c : Control) (conn : Nat) (files : String → Except String ClientConfig) :
    ControlRequest → Control
  | .connect configPath =>
    match c.daemon.connect configPath files with
    | (.ok (), daemon) => (c.withDaemon daemon).respond conn .ok
    | (.error e, daemon) => (c.withDaemon daemon).respond conn (.err e)
  | .disconnect =>
    match c.daemon.disconnect with
    | (.ok session, daemon) => (c.withDaemon daemon).goTo conn (.joining session.handle)
    | (.error e, daemon) => (c.withDaemon daemon).respond conn (.err e)

/-- `handle_connection`: one step of a connection. -/
def step (c : Control) : ControlEvent → Control
  | .request conn request =>
    match c.connections conn with
    | .reading => c.goTo conn (.locking request)
    | _ => c
  | .locked conn files =>
    match c.connections conn with
    | .locking request => c.locked conn files request
    | _ => c
  | .joined conn =>
    match c.connections conn with
    | .joining handle =>
      if (c.daemon.tasks[handle]?).any ClientTask.alive then c else c.respond conn .ok
    | _ => c
  | .progress handle outcome =>
    c.withDaemon { c.daemon with
      tasks := c.daemon.tasks.modify handle fun task => task.advance outcome }

/-- No `Disconnect` waits for a task that has not ended. -/
def NoDisconnectPending (c : Control) : Prop :=
  ∀ conn handle task, c.connections conn = .joining handle → c.daemon.tasks[handle]? = some task →
    task.phase = .finished

/-- No `Connect` finds the slot empty and loads while a `Disconnect` waits. -/
def Exclusive (c : Control) : ControlEvent → Prop
  | .locked conn files =>
    ∀ configPath config, c.connections conn = .locking (.connect configPath) →
      c.daemon.session = none → files configPath = .ok config → c.NoDisconnectPending
  | _ => True

/-- A task that runs is in the slot, or a `Disconnect` waits for it. -/
def Accounted (c : Control) : Prop :=
  ∀ handle task, c.daemon.tasks[handle]? = some task → task.alive = true →
    c.daemon.session = some { handle := handle } ∨ ∃ conn, c.connections conn = .joining handle

/-- What a step can do. -/
inductive Stepped (c : Control) : ControlEvent → Control → Prop
  | stays (event : ControlEvent)
      (noConnect : ∀ conn files configPath, event = .locked conn files →
        c.connections conn ≠ .locking (.connect configPath)) : Stepped c event c
  | asks (conn : Nat) (request : ControlRequest) (reads : c.connections conn = .reading) :
      Stepped c (.request conn request) (c.goTo conn (.locking request))
  | refuses (conn : Nat) (files : String → Except String ClientConfig) (request : ControlRequest)
      (message : String) (waits : c.connections conn = .locking request)
      (noConnect : ∀ configPath config, request = .connect configPath → c.daemon.session = none →
        files configPath ≠ .ok config) :
      Stepped c (.locked conn files) (c.respond conn (.err message))
  | connects (conn : Nat) (files : String → Except String ClientConfig) (configPath : String)
      (config : ClientConfig) (waits : c.connections conn = .locking (.connect configPath))
      (vacant : c.daemon.session = none) (loaded : files configPath = .ok config) :
      Stepped c (.locked conn files)
        ((c.withDaemon
          { session := some { handle := c.daemon.tasks.length }
            tasks := c.daemon.tasks ++
              [{ config := config, shutdown := false, phase := .resolving }] }).respond conn .ok)
  | disconnects (conn : Nat) (files : String → Except String ClientConfig) (session : Session)
      (waits : c.connections conn = .locking .disconnect) (taken : c.daemon.session = some session) :
      Stepped c (.locked conn files)
        ((c.withDaemon
          { session := none
            tasks := c.daemon.tasks.modify session.handle fun task =>
              { task with shutdown := true } }).goTo conn (.joining session.handle))
  | joins (conn handle : Nat) (waits : c.connections conn = .joining handle)
      (ended : ∀ task, c.daemon.tasks[handle]? = some task → task.alive = false) :
      Stepped c (.joined conn) (c.respond conn .ok)
  | advances (handle : Nat) (outcome : Outcome) : Stepped c (.progress handle outcome)
        (c.withDaemon { c.daemon with
          tasks := c.daemon.tasks.modify handle fun task => task.advance outcome })

lemma stepped_connect {c : Control} {conn : Nat} {configPath : String}
    {files : String → Except String ClientConfig}
    (state : c.connections conn = .locking (.connect configPath)) :
    Stepped c (.locked conn files) (c.step (.locked conn files)) := by
  simp only [step, state]
  cases slot : c.daemon.session with
  | some session =>
    simp only [locked, Daemon.connect, slot, Option.isSome_some, if_true]
    refine .refuses conn files (.connect configPath) _ state ?_
    intro _ _ _ vacant
    rw [slot] at vacant
    cases vacant
  | none =>
    cases loaded : files configPath with
    | error e =>
      simp only [locked, Daemon.connect, slot, loaded, Option.isSome_none]
      refine .refuses conn files (.connect configPath) _ state ?_
      intro _ _ same _
      cases same
      rw [loaded]
      exact fun same => nomatch same
    | ok config =>
      simp only [locked, Daemon.connect, slot, loaded, Option.isSome_none]
      exact .connects conn files configPath config state slot loaded

lemma stepped_disconnect {c : Control} {conn : Nat} {files : String → Except String ClientConfig}
    (state : c.connections conn = .locking .disconnect) :
    Stepped c (.locked conn files) (c.step (.locked conn files)) := by
  simp only [step, state]
  cases slot : c.daemon.session with
  | none =>
    simp only [locked, Daemon.disconnect, slot]
    exact .refuses conn files .disconnect _ state fun _ _ same => nomatch same
  | some session =>
    simp only [locked, Daemon.disconnect, slot]
    exact .disconnects conn files session state slot

lemma stepped (c : Control) (event : ControlEvent) : Stepped c event (c.step event) := by
  have other : ∀ {conn}, (∀ configPath, c.connections conn ≠ .locking (.connect configPath)) →
      ∀ files conn' files' configPath, ControlEvent.locked conn files = .locked conn' files' →
        c.connections conn' ≠ .locking (.connect configPath) := by
    intro conn idle files conn' files' configPath same
    cases same
    exact idle configPath
  cases event with
  | request conn request =>
    cases state : c.connections conn with
    | reading =>
      simp only [step, state]
      exact .asks conn request state
    | locking request' =>
      simp only [step, state]
      exact .stays _ fun _ _ _ same => nomatch same
    | joining handle =>
      simp only [step, state]
      exact .stays _ fun _ _ _ same => nomatch same
  | locked conn files =>
    cases state : c.connections conn with
    | reading =>
      simp only [step, state]
      exact .stays _ (other (by rw [state]; exact fun _ same => nomatch same) files)
    | joining handle =>
      simp only [step, state]
      exact .stays _ (other (by rw [state]; exact fun _ same => nomatch same) files)
    | locking request =>
      cases request with
      | connect configPath => exact stepped_connect state
      | disconnect => exact stepped_disconnect state
  | joined conn =>
    cases state : c.connections conn with
    | reading =>
      simp only [step, state]
      exact .stays _ fun _ _ _ same => nomatch same
    | locking request =>
      simp only [step, state]
      exact .stays _ fun _ _ _ same => nomatch same
    | joining handle =>
      simp only [step, state]
      split
      · exact .stays _ fun _ _ _ same => nomatch same
      · next ended =>
        refine .joins conn handle state fun task found => ?_
        rw [found, Option.any_some, Bool.not_eq_true] at ended
        exact ended
  | progress handle outcome => exact .advances handle outcome

variable {c : Control}

lemma withDaemon_connections (c : Control) (daemon : Daemon) :
    (c.withDaemon daemon).connections = c.connections :=
  rfl

lemma joining_goTo {conn conn' handle : Nat} {state : Connection}
    (waits : c.connections conn' = .joining handle)
    (other : c.connections conn ≠ .joining handle ∨ state = .joining handle) :
    (c.goTo conn state).connections conn' = .joining handle := by
  show Function.update c.connections conn state conn' = _
  by_cases same : conn' = conn
  · subst same
    rw [Function.update_self]
    exact other.resolve_left fun absent => absent waits
  · rw [Function.update_of_ne same]
    exact waits

lemma Accounted.goTo (h : c.Accounted) {conn : Nat} {state : Connection}
    (other : ∀ handle task, c.daemon.tasks[handle]? = some task → task.alive = true →
      c.connections conn ≠ .joining handle) : (c.goTo conn state).Accounted := by
  intro handle task found alive
  obtain slot | ⟨conn', waits⟩ := h handle task found alive
  · exact .inl slot
  · exact .inr ⟨conn', joining_goTo waits (.inl (other handle task found alive))⟩

/-- An update of the tasks that revives none keeps the account. -/
lemma Accounted.modify (h : c.Accounted) (handle : Nat) {f : ClientTask → ClientTask}
    (ended : ∀ task, (f task).alive = true → task.alive = true) :
    (c.withDaemon { c.daemon with tasks := c.daemon.tasks.modify handle f }).Accounted := by
  intro handle' task found alive
  have found : (c.daemon.tasks.modify handle f)[handle']? = some task := found
  rw [List.getElem?_modify] at found
  obtain ⟨old, before, rfl⟩ := Option.map_eq_some_iff.1 found
  refine h handle' old before ?_
  split at alive
  · exact ended old alive
  · exact alive

lemma Accounted.step (h : c.Accounted) (event : ControlEvent) : (c.step event).Accounted := by
  have stepped := c.stepped event
  generalize c.step event = next at stepped
  cases stepped with
  | stays event noConnect => exact h
  | asks conn request reads =>
    refine h.goTo fun handle _ _ _ => ?_
    rw [reads]
    exact fun same => nomatch same
  | refuses conn files request message waits noConnect =>
    refine h.goTo fun handle _ _ _ => ?_
    rw [waits]
    exact fun same => nomatch same
  | connects conn files configPath config waits vacant loaded =>
    intro handle task found alive
    have found : (c.daemon.tasks ++ [_])[handle]? = some task := found
    -- an older task cannot be the one of the slot, which is vacant
    by_cases old : handle < c.daemon.tasks.length
    · rw [List.getElem?_append_left old] at found
      obtain slot | ⟨conn', waits'⟩ := h handle task found alive
      · rw [vacant] at slot
        cases slot
      · refine .inr ⟨conn', joining_goTo waits' (.inl ?_)⟩
        rw [withDaemon_connections, waits]
        exact fun same => nomatch same
    · have bound := (List.getElem?_eq_some_iff.1 found).1
      rw [List.length_append, List.length_singleton] at bound
      have same : handle = c.daemon.tasks.length := by omega
      exact .inl (by rw [same]; rfl)
  | disconnects conn files session waits taken =>
    have kept := h.modify session.handle (f := fun task => { task with shutdown := true })
      fun task alive => alive
    intro handle task found alive
    obtain slot | ⟨conn', waits'⟩ := kept handle task found alive
    · -- the task of the slot is the one that the connection waits for now
      have slot : c.daemon.session = some { handle := handle } := slot
      rw [taken] at slot
      cases slot
      exact .inr ⟨conn, Function.update_self ..⟩
    · refine .inr ⟨conn', joining_goTo waits' (.inl ?_)⟩
      rw [withDaemon_connections, waits]
      exact fun same => nomatch same
  | joins conn handle waits ended =>
    refine h.goTo fun handle' task found alive => ?_
    rw [waits]
    intro same
    cases same
    rw [ended task found] at alive
    cases alive
  | advances handle outcome => exact h.modify handle fun task => ClientTask.alive_of_advance

lemma countP_modify_le {tasks : List ClientTask} (handle : Nat) {f : ClientTask → ClientTask}
    (ended : ∀ task, (f task).alive = true → task.alive = true) :
    (tasks.modify handle f).countP ClientTask.alive ≤ tasks.countP ClientTask.alive := by
  induction tasks generalizing handle with
  | nil => simp
  | cons task tasks ih =>
    cases handle with
    | zero =>
      rw [List.modify_zero_cons, List.countP_cons, List.countP_cons]
      split
      · next alive => exact Nat.le_of_eq (by rw [if_pos (ended task alive)])
      · exact Nat.add_le_add_left (Nat.zero_le _) _
    | succ handle =>
      rw [List.modify_succ_cons, List.countP_cons, List.countP_cons]
      exact Nat.add_le_add_right (ih handle) _

lemma aliveTasks_eq_zero_iff (h : c.Accounted) (vacant : c.daemon.session = none) :
    c.daemon.aliveTasks = 0 ↔ c.NoDisconnectPending := by
  rw [Daemon.aliveTasks, List.countP_eq_zero]
  refine ⟨?_, ?_⟩
  · intro ended conn handle task _ found
    have dead := ended task (List.mem_of_getElem? found)
    rw [ClientTask.alive, decide_eq_true_eq, not_not] at dead
    exact dead
  · intro idle task mem alive
    obtain ⟨handle, found⟩ := List.getElem?_of_mem mem
    obtain slot | ⟨conn, waits⟩ := h handle task found alive
    · rw [vacant] at slot
      cases slot
    · rw [ClientTask.alive, decide_eq_true_eq] at alive
      exact alive (idle conn handle task waits found)

/-- From at most one task a step leads to at most one iff it is exclusive. -/
lemma aliveTasks_step (h : c.Accounted) (one : c.daemon.aliveTasks ≤ 1) (event : ControlEvent) :
    (c.step event).daemon.aliveTasks ≤ 1 ↔ c.Exclusive event := by
  have stepped := c.stepped event
  generalize c.step event = next at stepped
  cases stepped with
  | stays event noConnect =>
    refine ⟨fun _ => ?_, fun _ => one⟩
    cases event with
    | locked conn files =>
      intro configPath config waits
      exact absurd waits (noConnect conn files configPath rfl)
    | request conn request => trivial
    | joined conn => trivial
    | progress handle outcome => trivial
  | asks conn request reads => exact ⟨fun _ => trivial, fun _ => one⟩
  | refuses conn files request message waits noConnect =>
    refine ⟨fun _ => ?_, fun _ => one⟩
    intro configPath config waits' vacant loaded
    rw [waits] at waits'
    cases waits'
    exact absurd loaded (noConnect configPath config rfl vacant)
  | connects conn files configPath config waits vacant loaded =>
    have exact' := aliveTasks_eq_zero_iff h vacant
    -- the new task is alive, so at most one is alive exactly if none was
    have spawned : ((c.withDaemon
        { session := some { handle := c.daemon.tasks.length }
          tasks := c.daemon.tasks ++
            [{ config := config, shutdown := false, phase := .resolving }] }).respond conn
              .ok).daemon.aliveTasks = c.daemon.aliveTasks + 1 := List.countP_append
    rw [spawned]
    refine ⟨?_, ?_⟩
    · intro few _ _ _ _ _
      exact exact'.1 (by omega)
    · intro exclusive
      have none := exact'.2 (exclusive configPath config waits vacant loaded)
      omega
  | disconnects conn files session waits taken =>
    refine ⟨fun _ => ?_, fun _ => ?_⟩
    · intro configPath config waits'
      rw [waits] at waits'
      cases waits'
    · exact Nat.le_trans (countP_modify_le session.handle fun task alive => alive) one
  | joins conn handle waits ended => exact ⟨fun _ => trivial, fun _ => one⟩
  | advances handle outcome =>
    refine ⟨fun _ => trivial, fun _ => ?_⟩
    exact Nat.le_trans (countP_modify_le handle fun task => ClientTask.alive_of_advance) one

/-- There is never more than one task exactly in the runs where no `Connect` finds the slot empty
while a `Disconnect` waits. -/
theorem one_session_iff (events : List ControlEvent) :
    Always step (fun c => c.daemon.aliveTasks ≤ 1) start events ↔
      EachStep step Exclusive start events := by
  have init : start.Accounted := by
    intro handle task found
    cases found
  refine always_iff_eachStep init (Nat.zero_le 1) ?_ ?_
  · exact fun c event h => h.step event
  · exact fun c event h one => aliveTasks_step h one event

def sampleFiles : String → Except String ClientConfig :=
  fun _ => .ok { defaultRoute := true, defaultRouteV6 := false }

def connectDuringTeardown : List ControlEvent :=
  [.request 0 (.connect "client.toml"), .locked 0 sampleFiles] ++
    List.replicate 4 (.progress 0 .ok) ++
    [.request 0 .disconnect, .locked 0 sampleFiles, .progress 0 .ok,
      .request 1 (.connect "client.toml"), .locked 1 sampleFiles]

theorem two_sessions_during_teardown :
    (run step start connectDuringTeardown).daemon.tasks.map ClientTask.phase =
        [.restoring, .resolving] ∧
      (run step start connectDuringTeardown).responses = [(0, .ok), (1, .ok)] ∧
      ¬ Always step (fun c => c.daemon.aliveTasks ≤ 1) start connectDuringTeardown := by
  refine ⟨by decide, by decide, ?_⟩
  intro always
  exact absurd always.last (by decide)

end Control

end Rvpn.Client
