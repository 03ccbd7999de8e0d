import Rvpn.Lib.Checked
import Rvpn.Transport.AdaptiveMtu

/-!
# Sending through the UDP transport

Model of `UdpTransport::send` and `send_to` in `crates/rvpn-transport/src/transport.rs`. A call waits
for the socket, and other calls run meanwhile: `Outbox` is a transport with the datagrams that wait. The
code before the wait and the code after it are steps (`Sent`). The keepalive timer, which sending only
pushes out, is left out. A datagram that waits passed the check, so a probe for a larger size has no
evidence of its own.
-/

namespace Rvpn.Transport

/-- Whether a loss is repaired. -/
inductive Reliability where
  | unreliable
  | reliable
  deriving DecidableEq

/-- `Ordering` of a delivery mode. -/
inductive DeliveryOrdering where
  | unordered
  | ordered
  deriving DecidableEq

/-- How a datagram travels. -/
structure DeliveryMode where
  reliability : Reliability
  ordering : DeliveryOrdering
  deriving DecidableEq

/-- `DeliveryMode::UNRELIABLE`, the default. -/
def DeliveryMode.unreliable : DeliveryMode :=
  ⟨.unreliable, .unordered⟩

/-- `SendOptions`, as far as sending reads them. -/
structure SendOptions where
  delivery : DeliveryMode := .unreliable

/-- `std::io::Error`, by its error number. -/
structure IoError where
  rawOsError : Option Nat
  deriving DecidableEq

def emsgsize : Nat := 90

/-- `is_message_too_long` on Unix. -/
def isMessageTooLong (error : IoError) : Bool :=
  error.rawOsError == some emsgsize

inductive SendError where
  | io (error : IoError)
  | invalidDatagramSize (size maximum : Nat)
  | missingRemoteAddress
  | unsupportedDeliveryMode
  | pathMtuExceeded (attempted effective : Nat)
  deriving DecidableEq

/-- `MAX_UDP_PAYLOAD_SIZE`. -/
def maxUdpPayloadSize : Nat := 65507

/-- What a transport is opened with. -/
structure TransportConfig where
  localAddress : SocketAddr
  remoteAddress : Option SocketAddr := none
  maxDatagramSize : Nat := 1200

/-- `TransportConfig::validate`. -/
def TransportConfig.validate (config : TransportConfig) : Except SendError Unit :=
  if config.maxDatagramSize = 0 ∨ maxUdpPayloadSize < config.maxDatagramSize then
    .error (.invalidDatagramSize config.maxDatagramSize maxUdpPayloadSize)
  else .ok ()

/-- The keepalive settings. -/
structure TransportTuning where
  minimumMtu : Option Nat := none

/-- The counters of a transport. -/
structure TransportMetrics where
  bytesSent : UInt64 := 0
  packetsSent : UInt64 := 0
  packetsDroppedOversized : UInt64 := 0
  sendErrors : UInt64 := 0
  mtuChanges : UInt64 := 0

namespace TransportMetrics

/-- `record_sent`. -/
def recordSent (metrics : TransportMetrics) (bytes : Nat) : TransportMetrics :=
  { metrics with
    bytesSent := metrics.bytesSent + UInt64.ofNat bytes
    packetsSent := metrics.packetsSent + 1 }

/-- `record_dropped_oversized`. -/
def recordDroppedOversized (metrics : TransportMetrics) : TransportMetrics :=
  { metrics with packetsDroppedOversized := metrics.packetsDroppedOversized + 1 }

/-- `record_send_error`. -/
def recordSendError (metrics : TransportMetrics) : TransportMetrics :=
  { metrics with sendErrors := metrics.sendErrors + 1 }

/-- `record_mtu_change`. -/
def recordMtuChange (metrics : TransportMetrics) : TransportMetrics :=
  { metrics with mtuChanges := metrics.mtuChanges + 1 }

end TransportMetrics

/-- `UdpTransport`, without its socket. -/
structure UdpTransport where
  config : TransportConfig
  metrics : TransportMetrics
  mtu : AdaptiveMtu

namespace UdpTransport

/-- `UdpTransport::open_with_tuning`. -/
def openWithTuning (config : TransportConfig) (tuning : TransportTuning) (now : Nat) :
    Except SendError UdpTransport := do
  config.validate
  let targetMtu := config.maxDatagramSize
  let minimumMtu := tuning.minimumMtu.getD (min targetMtu 576)
  return { config := config, metrics := {}, mtu := .new targetMtu minimumMtu now }

/-- `effective_mtu`. -/
def effectiveMtu (t : UdpTransport) : Nat :=
  t.mtu.effectiveMtu

/-- `report_path_failure`. -/
def reported (t : UdpTransport) (result : Option MtuChangeReason × AdaptiveMtu) : UdpTransport :=
  { t with
    mtu := result.2
    metrics := if result.1.isSome then t.metrics.recordMtuChange else t.metrics }

/-- `UdpTransport::drop_if_oversized`. -/
def dropIfOversized (t : UdpTransport) (payload : List UInt8) (clock : MtuClock) :
    Bool × UdpTransport :=
  let limit := t.effectiveMtu
  if payload.length ≤ limit then (false, t)
  else
    let t := { t with metrics := t.metrics.recordDroppedOversized }
    (true, t.reported (t.mtu.recordOversized payload.length clock))

/-- `UdpTransport::on_send_success`. -/
def onSendSuccess (t : UdpTransport) (sent : Nat) (clock : MtuClock) : UdpTransport :=
  let t := { t with metrics := t.metrics.recordSent sent }
  t.reported (t.mtu.recordSuccess clock)

/-- `UdpTransport::on_send_error`. -/
def onSendError (t : UdpTransport) (error : IoError) (attempted : Nat) (clock : MtuClock) :
    SendError × UdpTransport :=
  let t := { t with metrics := t.metrics.recordSendError }
  if isMessageTooLong error then
    let t := { t with metrics := t.metrics.recordDroppedOversized }
    let t := t.reported (t.mtu.recordOversized attempted clock)
    (.pathMtuExceeded attempted t.effectiveMtu, t)
  else (.io error, t)

/-- `UdpTransport::ensure_supported`. -/
def ensureSupported (options : SendOptions) : Except SendError Unit :=
  if options.delivery ≠ .unreliable then .error .unsupportedDeliveryMode else .ok ()

/-- The check of `send` and `send_to` before the socket, and its result. -/
def offer (t : UdpTransport) (payload : List UInt8) (clock : MtuClock) :
    Option (Except SendError Nat) × UdpTransport :=
  match t.dropIfOversized payload clock with
  | (true, t) => (some (.ok 0), t)
  | (false, t) => (none, t)

/-- `UdpTransport::send_to` up to the socket. -/
def beginSendTo (t : UdpTransport) (payload : List UInt8) (options : SendOptions) (clock : MtuClock) :
    Option (Except SendError Nat) × UdpTransport :=
  match ensureSupported options with
  | .error e => (some (.error e), t)
  | .ok () => t.offer payload clock

/-- `UdpTransport::send` up to the socket. -/
def beginSend (t : UdpTransport) (payload : List UInt8) (options : SendOptions) (clock : MtuClock) :
    Option (Except SendError Nat) × UdpTransport :=
  match ensureSupported options with
  | .error e => (some (.error e), t)
  | .ok () =>
    if t.config.remoteAddress.isNone then (some (.error .missingRemoteAddress), t)
    else t.offer payload clock

/-- What both do with the answer of the socket. -/
def finishSend (t : UdpTransport) (attempted : Nat) (answer : Except IoError Nat) (clock : MtuClock) :
    Except SendError Nat × UdpTransport :=
  match answer with
  | .ok sent => (.ok sent, t.onSendSuccess sent clock)
  | .error error =>
    let (e, t) := t.onSendError error attempted clock
    (.error e, t)

end UdpTransport

/-- A transport, and the datagrams that wait for the socket. -/
structure Outbox where
  transport : UdpTransport
  waiting : List (List UInt8)

/-- What happens at a transport; callers can drop calls that wait. -/
inductive SendEvent where
  | send (payload : List UInt8) (options : SendOptions) (clock : MtuClock)
  | sendTo (peer : SocketAddr) (payload : List UInt8) (options : SendOptions) (clock : MtuClock)
  | answer (index : Nat) (result : Except IoError Nat) (clock : MtuClock)
  | cancel (index : Nat)

/-- The event is a call of `send` or `send_to`. -/
def SendEvent.Calls : SendEvent → Prop
  | .send .. => True
  | .sendTo .. => True
  | .answer .. => False
  | .cancel _ => False

namespace Outbox
open AdaptiveMtu UdpTransport

/-- `effective_mtu()` of the transport. -/
def effective (w : Outbox) : Nat :=
  w.transport.effectiveMtu

def candidate (w : Outbox) : Option Nat :=
  w.transport.mtu.state.probeCandidate

/-- A call that was made: it has ended, or it waits. -/
def entered (w : Outbox) (payload : List UInt8) :
    Option (Except SendError Nat) × UdpTransport → Outbox
  | (some _, t) => { w with transport := t }
  | (none, t) => { transport := t, waiting := w.waiting ++ [payload] }

def step (w : Outbox) : SendEvent → Outbox
  | .send payload options clock => w.entered payload (w.transport.beginSend payload options clock)
  | .sendTo _ payload options clock =>
    w.entered payload (w.transport.beginSendTo payload options clock)
  | .answer index result clock =>
    match w.waiting[index]? with
    | none => w
    | some payload =>
      { transport := (w.transport.finishSend payload.length result clock).2
        waiting := w.waiting.eraseIdx index }
  | .cancel index => { w with waiting := w.waiting.eraseIdx index }

/-- A transport that was just opened. -/
def opened (t : UdpTransport) : Outbox where
  transport := t
  waiting := []

/-- A datagram over the effective size is offered, or refused as too long. -/
def TooLong (w : Outbox) : SendEvent → Prop
  | .send payload _ _ => w.effective < payload.length
  | .sendTo _ payload _ _ => w.effective < payload.length
  | .answer index (.error error) _ => index < w.waiting.length ∧ isMessageTooLong error = true
  | _ => False

inductive Sent (w : Outbox) : SendEvent → Outbox → Prop
  | kept (e : SendEvent) (w' : Outbox) (mtu : w'.transport.mtu = w.transport.mtu)
      (waiting : w'.waiting.Sublist w.waiting) : Sent w e w'
  | queued (e : SendEvent) (payload : List UInt8) (calls : e.Calls)
      (fits : payload.length ≤ w.effective) :
      Sent w e { w with waiting := w.waiting ++ [payload] }
  | dropped (e : SendEvent) (payload : List UInt8) (clock : MtuClock) (w' : Outbox) (calls : e.Calls)
      (long : w.effective < payload.length) (tooLong : w.TooLong e)
      (mtu : w'.transport.mtu = (w.transport.mtu.recordOversized payload.length clock).2)
      (waiting : w'.waiting = w.waiting) : Sent w e w'
  | accepted (index : Nat) (payload : List UInt8) (sent : Nat) (clock : MtuClock) (w' : Outbox)
      (found : w.waiting[index]? = some payload)
      (mtu : w'.transport.mtu = (w.transport.mtu.recordSuccess clock).2)
      (waiting : w'.waiting = w.waiting.eraseIdx index) :
      Sent w (.answer index (.ok sent) clock) w'
  | refused (index : Nat) (payload : List UInt8) (error : IoError) (clock : MtuClock) (w' : Outbox)
      (found : w.waiting[index]? = some payload)
      (tooLong : w.TooLong (.answer index (.error error) clock))
      (mtu : w'.transport.mtu = (w.transport.mtu.recordOversized payload.length clock).2)
      (waiting : w'.waiting = w.waiting.eraseIdx index) :
      Sent w (.answer index (.error error) clock) w'

lemma offer_sent (w : Outbox) (e : SendEvent) (calls : e.Calls) (payload : List UInt8)
    (clock : MtuClock) (tooLong : w.effective < payload.length → w.TooLong e) :
    Sent w e (w.entered payload (w.transport.offer payload clock)) := by
  unfold offer dropIfOversized
  simp only
  split
  · next eq =>
    split at eq
    · cases eq
    · next long =>
      cases eq
      have long := Nat.lt_of_not_le long
      exact .dropped e payload clock _ calls long (tooLong long) rfl rfl
  · next eq =>
    split at eq
    · next fits =>
      cases eq
      exact .queued e payload calls fits
    · cases eq

lemma step_sent (w : Outbox) (e : SendEvent) : Sent w e (w.step e) := by
  cases e with
  | send payload options clock =>
    unfold step beginSend
    simp only
    split
    · exact .kept _ _ rfl (List.Sublist.refl _)
    · split
      · exact .kept _ _ rfl (List.Sublist.refl _)
      · exact w.offer_sent (.send payload options clock) trivial payload clock id
  | sendTo peer payload options clock =>
    unfold step beginSendTo
    simp only
    split
    · exact .kept _ _ rfl (List.Sublist.refl _)
    · exact w.offer_sent (.sendTo peer payload options clock) trivial payload clock id
  | answer index result clock =>
    unfold step
    simp only
    split
    · exact .kept _ _ rfl (List.Sublist.refl _)
    · next payload found =>
      cases result with
      | ok sent => exact .accepted index payload sent clock _ found rfl rfl
      | error error =>
        unfold finishSend onSendError
        simp only
        split
        · next told =>
          have bound := (List.getElem?_eq_some_iff.1 found).1
          exact .refused index payload error clock _ found ⟨bound, told⟩ rfl rfl
        · exact .kept _ _ rfl (List.eraseIdx_sublist _ _)
  | cancel index => exact .kept _ _ rfl (List.eraseIdx_sublist _ _)

/-- No call is made while another one waits. -/
def Alone (w : Outbox) (e : SendEvent) : Prop :=
  e.Calls → w.waiting = []

/-- One datagram at most waits, and it fits. -/
structure Single (w : Outbox) : Prop where
  one : w.waiting.length ≤ 1
  fits : ∀ payload ∈ w.waiting, payload.length ≤ w.effective

lemma Single.step {w : Outbox} (single : w.Single) {e : SendEvent} (alone : w.Alone e) :
    (w.step e).Single := by
  have sent := w.step_sent e
  generalize w.step e = w' at sent
  -- a call finds nothing that waits, and an answer leaves nothing
  have answered : ∀ {index : Nat} {payload : List UInt8}, w.waiting[index]? = some payload →
      w.waiting.eraseIdx index = [] := by
    intro index payload found
    obtain ⟨bound, -⟩ := List.getElem?_eq_some_iff.1 found
    apply List.eq_nil_of_length_eq_zero
    rw [List.length_eraseIdx_of_lt bound]
    have := single.one
    omega
  cases sent with
  | kept _ _ mtu waiting =>
    refine ⟨waiting.length_le.trans single.one, ?_⟩
    intro payload mem
    show payload.length ≤ w'.transport.mtu.effectiveMtu
    rw [mtu]
    exact single.fits payload (waiting.subset mem)
  | queued _ payload calls fits =>
    rw [alone calls]
    exact ⟨le_rfl, fun other mem => List.mem_singleton.1 mem ▸ fits⟩
  | dropped _ _ _ _ calls _ _ _ waiting =>
    rw [alone calls] at waiting
    exact ⟨by rw [waiting]; exact Nat.zero_le 1, by rw [waiting]; exact nofun⟩
  | accepted index payload _ _ _ found _ waiting =>
    rw [answered found] at waiting
    exact ⟨by rw [waiting]; exact Nat.zero_le 1, by rw [waiting]; exact nofun⟩
  | refused index payload _ _ _ found _ _ waiting =>
    rw [answered found] at waiting
    exact ⟨by rw [waiting]; exact Nat.zero_le 1, by rw [waiting]; exact nofun⟩

variable {t : UdpTransport} {w : Outbox} {e : SendEvent}

lemma single_run {events : List SendEvent} (alone : EachStep step Alone (opened t) events) :
    (run step (opened t) events).Single :=
  run_invariant ⟨Nat.zero_le 1, nofun⟩ (fun _ _ single ok => single.step ok) alone

/-- A step with a probe in flight keeps the size and what is longer. -/
lemma step_of_candidate (found : (w.step e).candidate.isSome) : (w.step e).effective = w.effective ∧
      ∀ payload ∈ (w.step e).waiting, payload ∈ w.waiting ∨ payload.length ≤ w.effective := by
  have sent := w.step_sent e
  generalize w.step e = w' at sent found
  unfold candidate at found
  unfold effective UdpTransport.effectiveMtu
  cases sent with
  | kept _ _ mtu waiting => exact ⟨by rw [mtu], fun payload mem => .inl (waiting.subset mem)⟩
  | queued _ payload _ fits =>
    refine ⟨rfl, ?_⟩
    intro other mem
    rcases List.mem_append.1 mem with mem | mem
    · exact .inl mem
    · exact .inr (List.mem_singleton.1 mem ▸ fits)
  | dropped _ payload clock _ _ _ _ mtu waiting =>
    rw [mtu] at found ⊢
    rw [waiting]
    exact ⟨(recordOversized_effect _ clock _).steady found, fun other mem => .inl mem⟩
  | accepted index payload _ clock _ _ mtu waiting =>
    rw [mtu] at found ⊢
    rw [waiting]
    exact ⟨(recordSuccess_effect _ clock).steady found,
      fun other mem => .inl (List.mem_of_mem_eraseIdx mem)⟩
  | refused index payload _ clock _ _ _ mtu waiting =>
    rw [mtu] at found ⊢
    rw [waiting]
    exact ⟨(recordOversized_effect _ clock _).steady found,
      fun other mem => .inl (List.mem_of_mem_eraseIdx mem)⟩

/-- The sizes that the adaptive MTU of a transport keeps to. -/
structure Sized (t : UdpTransport) (w : Outbox) : Prop where
  targetMtu : w.transport.mtu.targetMtu = t.mtu.targetMtu
  minimumMtu : w.transport.mtu.minimumMtu = t.mtu.minimumMtu
  bounds : w.transport.mtu.InBounds t.mtu.targetMtu t.mtu.minimumMtu

lemma Sent.effect {w w' : Outbox} {e : SendEvent} (sent : Sent w e w') :
    w'.transport.mtu = w.transport.mtu ∨
      ∃ clock report result, Effect w.transport.mtu clock report result w'.transport.mtu := by
  cases sent with
  | kept _ _ mtu => exact .inl mtu
  | queued => exact .inl rfl
  | dropped _ payload clock _ _ _ _ mtu =>
    exact .inr ⟨_, _, _, mtu ▸ recordOversized_effect _ clock payload.length⟩
  | accepted _ _ _ clock _ _ mtu => exact .inr ⟨_, _, _, mtu ▸ recordSuccess_effect _ clock⟩
  | refused _ payload _ clock _ _ _ mtu =>
    exact .inr ⟨_, _, _, mtu ▸ recordOversized_effect _ clock payload.length⟩

lemma Sized.step {t : UdpTransport} {w : Outbox} (sized : Sized t w) (e : SendEvent) :
    Sized t (w.step e) := by
  rcases (w.step_sent e).effect with same | ⟨clock, report, result, effect⟩
  · exact ⟨same ▸ sized.targetMtu, same ▸ sized.minimumMtu, same ▸ sized.bounds⟩
  · exact ⟨effect.frame.1.trans sized.targetMtu, effect.frame.2.trans sized.minimumMtu,
      sized.bounds.effect effect sized.targetMtu sized.minimumMtu⟩

lemma openWithTuning_ok {config : TransportConfig} {tuning : TransportTuning} {now : Nat}
    (opens : openWithTuning config tuning now = .ok t) :
    t.mtu.targetMtu = config.maxDatagramSize ∧ t.mtu.targetMtu ≤ (opened t).effective ∧
      Sized t (opened t) := by
  obtain ⟨_, valid, opens⟩ := except_bind_ok.1 opens
  cases opens
  unfold TransportConfig.validate at valid
  split at valid
  · cases valid
  · next range =>
    have positive : max config.maxDatagramSize 1 = config.maxDatagramSize := by omega
    refine ⟨positive, le_rfl, rfl, rfl, ?_, ?_, nofun⟩
    · show max (min _ (max config.maxDatagramSize 1)) 1 ≤ max config.maxDatagramSize 1
      omega
    · exact le_rfl

/-- The socket accepts a datagram of that size. -/
def Accepts (w : Outbox) (e : SendEvent) (size : Nat) : Prop :=
  ∃ index payload sent clock, e = .answer index (.ok sent) clock ∧
    w.waiting[index]? = some payload ∧ payload.length = size

/-- The probe in flight after `pre`: its event and those since. -/
structure Probing (s : Outbox) (pre before : List SendEvent) (began : SendEvent)
    (during : List SendEvent) : Prop where
  split : pre = before ++ began :: during
  idle : (run step s before).candidate = none
  flight : Always step (fun w => w.candidate.isSome) ((run step s before).step began) during

/-- Since the probe began the socket accepted more than `size` bytes. -/
def Evidence (s : Outbox) (pre : List SendEvent) (e : SendEvent) (size : Nat) : Prop :=
  ∃ before began during, Probing s pre before began during ∧
    ∃ mid a rest longer, during ++ [e] = mid ++ a :: rest ∧
      Accepts (run step s (before ++ began :: mid)) a longer ∧ size < longer

/-- The event raises the effective size. -/
def Rises (w : Outbox) (e : SendEvent) : Prop :=
  w.effective < (w.step e).effective

/-- Whenever the effective size rises, there is evidence for it. -/
def Evidenced (s : Outbox) (events : List SendEvent) : Prop :=
  ∀ pre e post, events = pre ++ e :: post → Rises (run step s pre) e →
    Evidence s pre e (run step s pre).effective

/-- A probe from `base`: the size is that of then, longer ones waited. -/
def Since (base w : Outbox) : Prop :=
  w.effective = base.effective ∧
    ∀ payload ∈ w.waiting, base.effective < payload.length → payload ∈ base.waiting

lemma Since.step {base w : Outbox} {e : SendEvent} (since : base.Since w)
    (found : (w.step e).candidate.isSome) : base.Since (w.step e) := by
  obtain ⟨same, new⟩ := step_of_candidate found
  refine ⟨same.trans since.1, ?_⟩
  intro payload mem long
  rcases new payload mem with old | fits
  · exact since.2 payload old long
  · rw [since.1] at fits
    exact absurd long (Nat.not_lt.2 fits)

lemma Since.always {base w : Outbox} {during : List SendEvent} (since : base.Since w)
    (flight : Always Outbox.step (fun w => w.candidate.isSome) w during) :
    Always Outbox.step base.Since w during := by
  induction during generalizing w with
  | nil => exact always_nil.2 since
  | cons e during ih =>
    obtain ⟨_, rest⟩ := always_cons.1 flight
    exact always_cons.2 ⟨since, ih (since.step (rest [] during rfl)) rest⟩

lemma Probing.since {s : Outbox} {pre before during : List SendEvent} {began : SendEvent}
    (probing : Probing s pre before began during) :
    Always step ((run step s before).Since) ((run step s before).step began) during := by
  have base : (run step s before).Since (run step s before) := ⟨rfl, fun payload mem _ => mem⟩
  exact (base.step (probing.flight [] during rfl)).always probing.flight

/-- All evidence waited for the socket when the probe began. -/
lemma Evidence.waited {s : Outbox} {pre : List SendEvent}
    (evidence : Evidence s pre e (run step s pre).effective) :
    ∃ before began during, Probing s pre before began during ∧
      ∃ payload ∈ (run step s before).waiting, (run step s before).effective < payload.length := by
  obtain ⟨before, began, during, probing, mid, a, rest, longer, split, accepts, more⟩ := evidence
  refine ⟨before, began, during, probing, ?_⟩
  have since := probing.since
  have last : run step ((run step s before).step began) during = run step s pre := by
    rw [probing.split, run_append, run_cons]
  have same : (run step s pre).effective = (run step s before).effective := last ▸ since.last.1
  -- the datagram is accepted in a state of the probe
  obtain ⟨rest', eq⟩ : ∃ rest', during = mid ++ rest' := by
    obtain ⟨rfl, _⟩ | ⟨rest', eq⟩ := history_cases split
    · exact ⟨[], (List.append_nil _).symm⟩
    · exact ⟨a :: rest', eq⟩
  obtain ⟨index, payload, _, _, _, found, length⟩ := accepts
  rw [run_append, run_cons] at found
  have long : (run step s before).effective < payload.length := by
    rw [length, ← same]
    exact more
  exact ⟨payload, (since mid rest' eq).2 payload (List.mem_of_getElem? found) long, long⟩

/-- Calls that are made one after the other give no evidence. -/
lemma not_evidence_of_alone {pre : List SendEvent} (alone : EachStep step Alone (opened t) pre) :
    ¬Evidence (opened t) pre e (run step (opened t) pre).effective := by
  intro evidence
  obtain ⟨before, began, during, probing, payload, mem, long⟩ := evidence.waited
  rw [probing.split] at alone
  exact absurd ((single_run alone.of_append).fits payload mem) (Nat.not_le.2 long)

/-- An answer commits the probe: the 16th success, after three seconds. -/
def Due (w : Outbox) : SendEvent → Prop
  | .answer index (.ok _) clock =>
    index < w.waiting.length ∧ w.candidate.isSome ∧
      16 ≤ (w.transport.mtu.state.consecutiveSuccesses + 1).toNat ∧
      w.transport.mtu.state.probeStarted.getD clock.opened + fromSecs 3 ≤ clock.checked
  | _ => False

instance (w : Outbox) : (e : SendEvent) → Decidable (w.Due e)
  | .answer _ (.ok _) _ => inferInstanceAs (Decidable (_ ∧ _))
  | .answer _ (.error _) _ => .isFalse id
  | .send .. => .isFalse id
  | .sendTo .. => .isFalse id
  | .cancel _ => .isFalse id

lemma Rises.due (rises : w.Rises e) : w.Due e := by
  unfold Rises at rises
  have sent := w.step_sent e
  generalize w.step e = w' at sent rises
  unfold effective UdpTransport.effectiveMtu at rises
  cases sent with
  | kept _ _ mtu =>
    rw [mtu] at rises
    exact absurd rises (Nat.lt_irrefl _)
  | queued => exact absurd rises (Nat.lt_irrefl _)
  | dropped _ payload clock _ _ _ _ mtu =>
    rw [mtu] at rises
    cases ((recordOversized_effect _ clock _).grows rises).1
  | accepted index payload _ clock _ found mtu =>
    rw [mtu] at rises
    obtain ⟨_, _, probing, enough, window⟩ := (recordSuccess_effect _ clock).grows rises
    refine ⟨(List.getElem?_eq_some_iff.1 found).1, ?_, enough, window⟩
    rw [candidate, probing, Option.isSome_some]
  | refused index payload _ clock _ _ _ mtu =>
    rw [mtu] at rises
    cases ((recordOversized_effect _ clock _).grows rises).1

lemma Due.rises (sized : Sized t w) (due : w.Due e) : w.Rises e := by
  unfold Due at due
  split at due
  · next index _ clock =>
    obtain ⟨bound, probing, enough, window⟩ := due
    obtain ⟨size, probing⟩ := Option.isSome_iff_exists.1 probing
    have committed : (w.transport.mtu.recordSuccess clock).2.effectiveMtu = size := by
      rw [candidate] at probing
      unfold recordSuccess
      rw [probing]
      dsimp only
      rw [if_pos ⟨UInt32.le_iff_toNat_le.2 enough, Nat.le_sub_of_add_le' window⟩]
    have above := (sized.bounds.probe size probing).1
    unfold Rises step
    simp only [List.getElem?_eq_getElem bound]
    exact above.trans_eq committed.symm
  · cases due

/-- Every rise of the effective size has evidence if no answer commits a probe, and exactly then if
calls are made one after the other. In every run, a rise has evidence only if a longer datagram
waited for the socket when the probe began. -/
theorem larger_mtu_evidenced_iff {config : TransportConfig} {tuning : TransportTuning} {now : Nat}
    {t : UdpTransport} (opens : openWithTuning config tuning now = .ok t) (events : List SendEvent) :
    (EachStep step (fun w e => ¬w.Due e) (opened t) events → Evidenced (opened t) events) ∧
      (EachStep step Alone (opened t) events →
        (Evidenced (opened t) events ↔ EachStep step (fun w e => ¬w.Due e) (opened t) events)) ∧
      (Evidenced (opened t) events → ∀ pre e post, events = pre ++ e :: post →
        Rises (run step (opened t) pre) e →
        ∃ before began during, Probing (opened t) pre before began during ∧
          ∃ payload ∈ (run step (opened t) before).waiting,
            (run step (opened t) before).effective < payload.length) := by
  have enough : EachStep step (fun w e => ¬w.Due e) (opened t) events → Evidenced (opened t) events :=
    fun steady pre e post eq rises => absurd rises.due (steady pre e post eq)
  refine ⟨enough, ?_, fun evidenced pre e post eq rises => (evidenced pre e post eq rises).waited⟩
  intro alone
  refine ⟨?_, enough⟩
  intro evidenced pre e post eq due
  have sized : Sized t (run step (opened t) pre) :=
    run_invariant' (openWithTuning_ok opens).2.2 fun _ e h => h.step e
  rw [eq] at alone
  exact not_evidence_of_alone alone.of_append (evidenced pre e post eq (due.rises sized))

def second (n : Nat) : MtuClock :=
  ⟨fromSecs n, fromSecs n, fromSecs n, Nat.le_refl _, Nat.le_refl _⟩

/-- Calls of `send_to` at whole seconds, answered at once. -/
def exchanges (peer : SocketAddr) (calls : List (Nat × Nat × Except IoError Nat)) : List SendEvent :=
  calls.flatMap fun (n, size, result) =>
    [.sendTo peer (List.replicate size 0) {} (second n), .answer 0 result (second n)]

lemma waiting_entered (idle : w.waiting = []) (payload : List UInt8)
    (result : Option (Except SendError Nat) × UdpTransport) :
    (w.entered payload result).waiting = [] ∨ (w.entered payload result).waiting = [payload] := by
  obtain ⟨ended, t⟩ := result
  cases ended with
  | none => exact .inr (by rw [entered, idle]; rfl)
  | some r => exact .inl idle

lemma waiting_exchange (idle : w.waiting = []) (peer : SocketAddr) (n size : Nat)
    (result : Except IoError Nat) :
    ((w.step (.sendTo peer (List.replicate size 0) {} (second n))).step
      (.answer 0 result (second n))).waiting = [] := by
  have waiting := waiting_entered idle (List.replicate size 0)
    (w.transport.beginSendTo (List.replicate size 0) {} (second n))
  unfold step
  rcases waiting with none | one
  · simp only [none, List.getElem?_nil]
  · simp only [one, List.getElem?_cons_zero, List.eraseIdx_cons_zero]

lemma alone_exchanges (idle : w.waiting = []) (peer : SocketAddr)
    (calls : List (Nat × Nat × Except IoError Nat)) :
    EachStep step Alone w (exchanges peer calls) := by
  induction calls generalizing w with
  | nil => exact eachStep_nil
  | cons call calls ih =>
    obtain ⟨n, size, result⟩ := call
    refine eachStep_cons.2 ⟨fun _ => idle, eachStep_cons.2 ⟨fun calls => calls.elim, ?_⟩⟩
    exact ih (waiting_exchange idle peer n size result)

lemma exists_rise {events : List SendEvent} (more : w.effective < (run step w events).effective) :
    ∃ pre e post, events = pre ++ e :: post ∧ Rises (run step w pre) e := by
  refine run_origin (I := fun _ => True) (Q := fun v => w.effective < v.effective) trivial
    (Nat.lt_irrefl _) (fun _ _ _ => trivial) ?_ more
  intro v e _ above
  by_cases was : w.effective < v.effective
  · exact .inl was
  · exact .inr ((Nat.not_lt.1 was).trans_lt above)

def localhost : SocketAddr where
  ip := .v4 ⟨[127, 0, 0, 1], rfl⟩
  port := 51820

def standardConfig : TransportConfig where
  localAddress := localhost
  maxDatagramSize := 1400

def longCall : Nat × Nat × Except IoError Nat :=
  (5, 1401, .ok 1401)

def shortCalls : List (Nat × Nat × Except IoError Nat) :=
  List.replicate 64 (10, 100, .ok 100) ++ List.replicate 16 (13, 100, .ok 100)

/-- A probe for 1277 is in flight after 15 successes. -/
theorem larger_mtu_evidenced_in_flight : ∃ t, openWithTuning standardConfig {} 0 = .ok t ∧
      (run step (opened t) (exchanges localhost (longCall :: shortCalls.take 79))).candidate = some 1277 ∧
      Evidenced (opened t) (exchanges localhost (longCall :: shortCalls.take 79)) := by
  have opens : ∃ t, openWithTuning standardConfig {} 0 = .ok t ∧
      (run step (opened t) (exchanges localhost (longCall :: shortCalls.take 79))).candidate = some 1277 ∧
      EachStep step (fun w e => ¬w.Due e) (opened t) (exchanges localhost (longCall :: shortCalls.take 79)) :=
    ⟨_, rfl, by decide +kernel, by decide +kernel⟩
  obtain ⟨t, opens, flight, steady⟩ := opens
  exact ⟨t, opens, flight, (larger_mtu_evidenced_iff opens _).1 steady⟩

/-- The dropped datagram lowers the effective size to 1260; the short ones raise it to 1277, for
which there is no evidence. -/
theorem probe_committed_by_short_datagrams : ∃ t, openWithTuning standardConfig {} 0 = .ok t ∧
      (run step (opened t) (exchanges localhost [longCall])).effective = 1260 ∧
      (run step (opened t) (exchanges localhost (longCall :: shortCalls))).effective = 1277 ∧
      ¬Evidenced (opened t) (exchanges localhost (longCall :: shortCalls)) := by
  have opens : ∃ t, openWithTuning standardConfig {} 0 = .ok t ∧
      (run step (opened t) (exchanges localhost [longCall])).effective = 1260 ∧
      (run step (opened t) (exchanges localhost (longCall :: shortCalls))).effective = 1277 :=
    ⟨_, rfl, by decide +kernel, by decide +kernel⟩
  obtain ⟨t, opens, low, high⟩ := opens
  refine ⟨t, opens, low, high, ?_⟩
  intro evidenced
  have split : exchanges localhost (longCall :: shortCalls) =
      exchanges localhost [longCall] ++ exchanges localhost shortCalls := rfl
  have alone : EachStep step Alone (opened t) _ := alone_exchanges rfl localhost (longCall :: shortCalls)
  rw [split] at high evidenced alone
  rw [run_append] at high
  obtain ⟨pre, e, post, eq, rises⟩ := exists_rise (by rw [low, high]; decide)
  rw [← run_append] at rises
  rw [eq, ← List.append_assoc] at evidenced alone
  exact not_evidence_of_alone alone.of_append (evidenced _ e post rfl rises)

/-! ## Datagrams that are too long for the path -/

/-- The answer of a socket on a path that takes datagrams of `path` bytes. -/
def pathAnswer (path size : Nat) : Except IoError Nat :=
  if size ≤ path then .ok size else .error ⟨some emsgsize⟩

/-- The socket answers as the path tells it. -/
def Obeys (path : Nat) (w : Outbox) (e : SendEvent) : Prop :=
  ∀ index result clock, e = .answer index result clock → ∀ payload, w.waiting[index]? = some payload →
    result = pathAnswer path payload.length

/-- The event lowers the effective size. -/
def Lowers (w : Outbox) (e : SendEvent) : Prop :=
  (w.step e).effective < w.effective

lemma le_recordSuccess {mtu : AdaptiveMtu} {target minimum : Nat} (bounds : mtu.InBounds target minimum)
    (clock : MtuClock) : mtu.effectiveMtu ≤ (mtu.recordSuccess clock).2.effectiveMtu := by
  unfold recordSuccess
  split
  · next candidate probing =>
    dsimp only
    split
    · exact (bounds.probe candidate probing).1.le
    · exact le_rfl
  · dsimp only
    split
    · split
      · exact le_rfl
      · exact le_rfl
    · exact le_rfl

lemma le_recordOversized {mtu : AdaptiveMtu} {size attempted : Nat}
    (low : mtu.minimumMtu ≤ mtu.effectiveMtu) (reached : size ≤ mtu.effectiveMtu)
    (long : size < attempted) (clock : MtuClock) :
    max mtu.minimumMtu (9 * size / 10) ≤ (mtu.recordOversized attempted clock).2.effectiveMtu := by
  have kept : max mtu.minimumMtu (9 * size / 10) ≤ mtu.effectiveMtu := by omega
  unfold recordOversized
  simp only
  split
  · exact kept
  · split
    · simp only [stepDown]
      omega
    · exact kept

/-- What lowers the effective size is too long for it, or for the path. -/
lemma Lowers.cases {path : Nat} (sized : Sized t w) (obeys : w.Obeys path e) (lowers : w.Lowers e) :
    w.TooLong e ∧ ∃ payload clock, (w.step e).transport.mtu =
        (w.transport.mtu.recordOversized payload.length clock).2 ∧
      (e.Calls ∧ w.effective < payload.length ∨ payload ∈ w.waiting ∧ path < payload.length) := by
  unfold Lowers at lowers
  have sent := w.step_sent e
  generalize w.step e = w' at sent lowers
  cases sent with
  | kept _ _ mtu =>
    unfold effective UdpTransport.effectiveMtu at lowers
    rw [mtu] at lowers
    exact absurd lowers (Nat.lt_irrefl _)
  | queued => exact absurd lowers (Nat.lt_irrefl _)
  | dropped _ payload clock _ calls long tooLong mtu =>
    exact ⟨tooLong, payload, clock, mtu, .inl ⟨calls, long⟩⟩
  | accepted _ _ _ clock _ _ mtu =>
    unfold effective UdpTransport.effectiveMtu at lowers
    rw [mtu] at lowers
    exact absurd (le_recordSuccess sized.bounds clock) (Nat.not_le.2 lowers)
  | refused index payload error clock _ found tooLong mtu =>
    have answer := obeys index _ clock rfl payload found
    unfold pathAnswer at answer
    split at answer
    · cases answer
    · next long =>
      exact ⟨tooLong, payload, clock, mtu, .inr ⟨List.mem_of_getElem? found, Nat.lt_of_not_le long⟩⟩

/-- The size that one step down from what path and target allow leads to. -/
def floor (t : UdpTransport) (path : Nat) : Nat :=
  max t.mtu.minimumMtu (9 * min path t.mtu.targetMtu / 10)

section
variable {t : UdpTransport} {path : Nat} {w : Outbox} {e : SendEvent}

lemma floor_step (sized : Sized t w) (above : floor t path ≤ w.effective) (obeys : w.Obeys path e)
    (high : w.TooLong e → min path t.mtu.targetMtu ≤ w.effective) :
    floor t path ≤ (w.step e).effective := by
  by_cases lowers : w.Lowers e
  · obtain ⟨tooLong, payload, clock, mtu, why⟩ := Lowers.cases sized obeys lowers
    have reached := high tooLong
    have long : min path t.mtu.targetMtu < payload.length := by
      rcases why with ⟨_, dropped⟩ | ⟨_, refused⟩
      · exact reached.trans_lt dropped
      · exact (min_le_left _ _).trans_lt refused
    unfold floor effective UdpTransport.effectiveMtu
    rw [mtu, ← sized.minimumMtu]
    exact le_recordOversized (sized.minimumMtu ▸ sized.bounds.low) reached long clock
  · exact above.trans (Nat.le_of_not_lt lowers)

/-- With one call at a time, refusals find the size above the path. -/
lemma high_of_single (single : w.Single) (obeys : w.Obeys path e)
    (high : e.Calls → w.TooLong e → min path t.mtu.targetMtu ≤ w.effective) (tooLong : w.TooLong e) :
    min path t.mtu.targetMtu ≤ w.effective := by
  cases e with
  | send => exact high trivial tooLong
  | sendTo => exact high trivial tooLong
  | cancel => cases tooLong
  | answer index result clock =>
    cases result with
    | ok => cases tooLong
    | error error =>
      obtain ⟨bound, _⟩ := tooLong
      have answer := obeys index _ clock rfl _ (List.getElem?_eq_getElem bound)
      unfold pathAnswer at answer
      split at answer
      · cases answer
      · next long =>
        have fits := single.fits _ (List.getElem_mem bound)
        omega

end

/-- On a path that takes datagrams of `path` bytes, the effective size never falls more than a tenth below the
smaller one of path and target, if datagrams are too long only while it is at least that large. With one call
at a time it is enough that those that are offered are. -/
theorem effective_above_floor {config : TransportConfig} {tuning : TransportTuning} {now : Nat}
    {t : UdpTransport} (opens : openWithTuning config tuning now = .ok t) {path : Nat}
    (events : List SendEvent) (obeys : EachStep step (Obeys path) (opened t) events)
    (high : EachStep step (fun w e => w.TooLong e → min path config.maxDatagramSize ≤ w.effective)
        (opened t) events ∨
      EachStep step Alone (opened t) events ∧ EachStep step
          (fun w e => e.Calls → w.TooLong e → min path config.maxDatagramSize ≤ w.effective)
          (opened t) events) :
    Always step
      (fun w => max t.mtu.minimumMtu (9 * min path config.maxDatagramSize / 10) ≤ w.effective)
      (opened t) events := by
  obtain ⟨target, start, sized⟩ := openWithTuning_ok opens
  rw [← target] at high ⊢
  have high : EachStep step (fun w e => w.TooLong e → min path t.mtu.targetMtu ≤ w.effective)
      (opened t) events := by
    rcases high with high | ⟨alone, high⟩
    · exact high
    · intro pre e post eq
      have single : (run step (opened t) pre).Single := single_run (eq ▸ alone).of_append
      exact high_of_single single (obeys pre e post eq) (high pre e post eq)
  have above : floor t path ≤ (opened t).effective := by
    have low : t.mtu.minimumMtu ≤ (opened t).effective := sized.bounds.low
    unfold floor
    omega
  have all : Always step (fun w => Sized t w ∧ floor t path ≤ w.effective) (opened t) events := by
    refine always_of_eachStep ⟨sized, above⟩ ?_ (obeys.and high)
    intro w e inv ok
    exact ⟨inv.1.step e, floor_step inv.1 inv.2 ok.1 ok.2⟩
  exact all.mono fun w inv => inv.2

/-- Calls at whole seconds on a path that takes datagrams of `path` bytes. -/
def pathCalls (path : Nat) (calls : List (Nat × Nat)) : List SendEvent :=
  exchanges localhost (calls.map fun (n, size) => (n, size, pathAnswer path size))

lemma obeys_pathCalls (idle : w.waiting = []) (path : Nat) (calls : List (Nat × Nat)) :
    EachStep step (Obeys path) w (pathCalls path calls) := by
  induction calls generalizing w with
  | nil => exact eachStep_nil
  | cons call calls ih =>
    obtain ⟨n, size⟩ := call
    refine eachStep_cons.2 ⟨?_, eachStep_cons.2 ⟨?_, ih (waiting_exchange idle _ n size _)⟩⟩
    · intro index result clock eq
      cases eq
    · intro index result clock eq payload found
      cases eq
      -- what waits is the datagram of the call
      have waiting := waiting_entered idle (List.replicate size 0)
        (w.transport.beginSendTo (List.replicate size 0) {} (second n))
      unfold step at found
      rcases waiting with none | one
      · simp [none] at found
      · rw [one] at found
        cases found
        rw [List.length_replicate]

/-- On a path of 1300 bytes one of 1400 lowers the size to 1260. -/
theorem effective_above_floor_narrow : ∃ t, openWithTuning standardConfig {} 0 = .ok t ∧
      (run step (opened t) (pathCalls 1300 [(5, 1400)])).effective = 1260 ∧
      Always step (fun w => max t.mtu.minimumMtu (9 * min 1300 1400 / 10) ≤ w.effective) (opened t)
        (pathCalls 1300 [(5, 1400)]) := by
  have opens : ∃ t, openWithTuning standardConfig {} 0 = .ok t ∧
      min 1300 standardConfig.maxDatagramSize ≤ (opened t).effective ∧
      (run step (opened t) (pathCalls 1300 [(5, 1400)])).effective = 1260 :=
    ⟨_, rfl, by decide +kernel, by decide +kernel⟩
  obtain ⟨t, opens, initial, lowered⟩ := opens
  refine ⟨t, opens, lowered, effective_above_floor opens _ (obeys_pathCalls rfl 1300 _) (.inr ⟨?_, ?_⟩)⟩
  · exact alone_exchanges rfl localhost _
  · exact eachStep_cons.2 ⟨fun _ _ => initial, eachStep_cons.2 ⟨fun calls => calls.elim, eachStep_nil⟩⟩

/-- Two dropped datagrams lower the size to 1134 on a path of 1400. -/
theorem dropped_datagrams_lower_mtu : ∃ t, openWithTuning standardConfig {} 0 = .ok t ∧
      EachStep step (Obeys 1400) (opened t) (pathCalls 1400 [(5, 1401), (10, 1401)]) ∧
      t.mtu.minimumMtu ≤ 1400 ∧
      (run step (opened t) (pathCalls 1400 [(5, 1401), (10, 1401)])).effective = 1134 ∧
      max t.mtu.minimumMtu (9 * min 1400 standardConfig.maxDatagramSize / 10) = 1260 :=
  ⟨_, rfl, obeys_pathCalls rfl 1400 _, by decide +kernel, by decide +kernel, by decide +kernel⟩

end Outbox
end Rvpn.Transport
