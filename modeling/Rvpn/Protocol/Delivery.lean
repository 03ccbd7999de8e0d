import Rvpn.Lib.Transparent
import Rvpn.Protocol.Session

/-!
# Delivery over rekeys

One direction of a session: a sender seals packets, a receiver opens whatever packets it is handed,
and both replace their session by one of a later key phase from time to time. An adversary chooses the
events; the only limit is that a ciphertext opens under a key of the receiver only if the sender sealed
it so (`Valid`). `Received` is the invariant of the two replay windows.
-/

namespace Rvpn.Protocol
open Crypto ProtectedSession Primitives

variable {P : Primitives}

structure Sealed (P : Primitives) where
  kind : PacketKind
  plaintext : List UInt8
  key : P.Key
  packet : Packet

/-- The AEAD call of a `seal`. -/
def Sealed.record (e : Sealed P) : SealRecord P where
  key := e.key
  nonce := packetNonce e.packet.header.keyPhase e.packet.header.sequence
  aad := e.packet.header.encode
  plaintext := e.plaintext
  ciphertext := e.packet.payload

/-- Sender and receiver, what was sealed and returned (newest first). -/
structure Channel (P : Primitives) where
  sender : ProtectedSession P
  receiver : ProtectedSession P
  sent : List (Sealed P)
  returned : List (Packet × List UInt8)

namespace Channel

def init (sessionId : SessionId) (senderPhase receiverPhase : UInt32)
    (senderKeys receiverKeys : SessionKeys P) (now : Nat) : Channel P where
  sender := ProtectedSession.new P sessionId senderPhase senderKeys now
  receiver := ProtectedSession.new P sessionId receiverPhase receiverKeys now
  sent := []
  returned := []

/-- What may happen to the two ends. -/
inductive Event (P : Primitives) where
  | sealing (kind : PacketKind) (plaintext : List UInt8)
  | rekeySender (keyPhase : UInt32) (keys : SessionKeys P) (grace now : Nat)
  | rekeyReceiver (keyPhase : UInt32) (keys : SessionKeys P) (grace now : Nat)
  | deliver (packet : Packet) (now : Nat)

def rekeyed (s : ProtectedSession P) (keyPhase : UInt32) (keys : SessionKeys P) (grace now : Nat) :
    ProtectedSession P :=
  (ProtectedSession.new P s.sessionId keyPhase keys now).inheritPrevious s grace now

def step (c : Channel P) : Event P → Channel P
  | .sealing kind plaintext =>
    match c.sender.sealPacket kind plaintext with
    | (.error _, sender) => { c with sender := sender }
    | (.ok packet, sender) =>
      { c with
        sender := sender
        sent :=
          { kind := kind, plaintext := plaintext, key := c.sender.keys.send, packet := packet }
            :: c.sent }
  | .rekeySender keyPhase keys grace now =>
    { c with sender := rekeyed c.sender keyPhase keys grace now }
  | .rekeyReceiver keyPhase keys grace now =>
    { c with receiver := rekeyed c.receiver keyPhase keys grace now }
  | .deliver packet now =>
    match c.receiver.openPacket packet now with
    | (.error _, receiver) => { c with receiver := receiver }
    | (.ok m, receiver) => { c with receiver := receiver, returned := (packet, m) :: c.returned }

def receiveKeys (s : ProtectedSession P) : List P.Key :=
  s.keys.receive :: s.previous.toList.map fun prev => prev.keys.receive

/-- A rekey raises the phase; what opens was sealed with its header. -/
def Valid (c : Channel P) : Event P → Prop
  | .rekeyReceiver keyPhase _ _ _ => c.receiver.keyPhase < keyPhase
  | .deliver packet _ =>
    ∀ k ∈ receiveKeys c.receiver, ∀ m,
      P.aeadOpen k (packetNonce packet.header.keyPhase packet.header.sequence) packet.header.encode
          packet.payload = some m →
        ⟨k, packetNonce packet.header.keyPhase packet.header.sequence, packet.header.encode, m,
          packet.payload⟩ ∈ c.sent.map Sealed.record
  | _ => True

def genuine (c : Channel P) (packet : Packet) : Bool :=
  c.sent.any fun e => decide (e.packet = packet)

def forged (c : Channel P) : Event P → Bool
  | .deliver packet _ => !c.genuine packet
  | _ => false

def strip (c : Channel P) : List (Event P) → List (Event P)
  | [] => []
  | e :: es => if c.forged e then strip (c.step e) es else e :: strip (c.step e) es

def results (c : Channel P) : List (Event P) → List (Packet × Except SessionError (List UInt8))
  | [] => []
  | .deliver packet now :: es =>
    if c.genuine packet then
      (packet, (c.receiver.openPacket packet now).1) :: results (c.step (.deliver packet now)) es
    else results (c.step (.deliver packet now)) es
  | e :: es => results (c.step e) es

def accepted (returned : List (Packet × List UInt8)) (keyPhase : UInt32) : Finset Nat :=
  ((returned.filter fun r => r.1.header.keyPhase = keyPhase).map fun r =>
    r.1.header.sequence.toNat).toFinset

structure Received (c : Channel P) : Prop where
  kinds : ∀ e ∈ c.sent, e.packet.header.kind = e.kind
  origin : ∀ r ∈ c.returned, ∃ e ∈ c.sent, e.packet = r.1 ∧ e.plaintext = r.2
  phases : ∀ r ∈ c.returned, r.1.header.keyPhase ≤ c.receiver.keyPhase
  current : Represents c.receiver.receiveReplay (accepted c.returned c.receiver.keyPhase)
  previous : ∀ prev, c.receiver.previous = some prev →
    prev.keyPhase < c.receiver.keyPhase ∧ Represents prev.replay (accepted c.returned prev.keyPhase)
  once : (c.returned.map Prod.fst).Nodup

variable {returned : List (Packet × List UInt8)} {keyPhase : UInt32} {c : Channel P}
  {packet : Packet}

lemma mem_accepted {n : Nat} : n ∈ accepted returned keyPhase ↔
      ∃ r ∈ returned, r.1.header.keyPhase = keyPhase ∧ r.1.header.sequence.toNat = n := by
  simp [accepted, and_assoc]

lemma accepted_cons_self (r : Packet × List UInt8) : accepted (r :: returned) r.1.header.keyPhase =
      insert r.1.header.sequence.toNat (accepted returned r.1.header.keyPhase) := by
  simp [accepted]

lemma accepted_cons_ne {r : Packet × List UInt8} (ne : r.1.header.keyPhase ≠ keyPhase) :
    accepted (r :: returned) keyPhase = accepted returned keyPhase := by
  simp [accepted, ne]

variable {m : List UInt8} {now : Nat}

/-- What opens was sealed with its kind: the associated data is the header. -/
lemma sealed_of_open (valid : Valid c (.deliver packet now)) {k : P.Key}
    (mem : k ∈ receiveKeys c.receiver)
    (opened : P.aeadOpen k (packetNonce packet.header.keyPhase packet.header.sequence)
      packet.header.encode packet.payload = some m) :
    ∃ e ∈ c.sent, e.packet = packet ∧ e.plaintext = m := by
  obtain ⟨e, he, eq⟩ := List.mem_map.1 (valid k mem m opened)
  have header := Header.encode_inj (congrArg SealRecord.aad eq)
  have payload := congrArg SealRecord.ciphertext eq
  exact ⟨e, he, Packet.ext header payload, congrArg SealRecord.plaintext eq⟩

lemma sealed_of_openPacket {s : ProtectedSession P} (valid : Valid c (.deliver packet now))
    (opened : c.receiver.openPacket packet now = (.ok m, s)) :
    ∃ e ∈ c.sent, e.packet = packet ∧ e.plaintext = m := by
  obtain ⟨_, _, current | previous⟩ := openPacket_ok opened
  · obtain ⟨_, w, phase, _⟩ := current
    exact sealed_of_open valid (.head _) (openPhase_ok phase).1
  · obtain ⟨_, prev, w, found, _, _, phase, _⟩ := previous
    refine sealed_of_open valid (.tail _ ?_) (openPhase_ok phase).1
    rw [found]
    exact .head _

lemma received_cons {w w' : ReplayWindow} {keys : SessionKeys P}
    (rep : Represents w (accepted returned keyPhase)) (phase : packet.header.keyPhase = keyPhase)
    (opened : openPhase keys w packet = (.ok m, w')) : packet ∉ returned.map Prod.fst ∧
      Represents w' (accepted ((packet, m) :: returned) keyPhase) := by
  subst phase
  obtain ⟨new, rep'⟩ := ReplayWindow.represents_accept rep (openPhase_ok opened).2
  refine ⟨?_, ?_⟩
  · intro mem
    obtain ⟨r, hr, rfl⟩ := List.mem_map.1 mem
    exact new (mem_accepted.2 ⟨r, hr, rfl, rfl⟩)
  · rw [accepted_cons_self (packet, m)]
    exact rep'

lemma received_deliver (inv : Received c) (valid : Valid c (.deliver packet now)) :
    Received (c.step (.deliver packet now)) := by
  cases opened : c.receiver.openPacket packet now with
  | mk result receiver =>
    cases result with
    | error e =>
      simp only [step, opened, openPacket_refused opened]
      exact inv
    | ok m =>
      obtain ⟨sealed, hs, rfl, rfl⟩ := sealed_of_openPacket valid opened
      simp only [step, opened]
      obtain ⟨_, _, current | previous⟩ := openPacket_ok opened
      · obtain ⟨phase, w, open', rfl⟩ := current
        obtain ⟨new, rep⟩ := received_cons inv.current phase open'
        refine ⟨inv.kinds, ?_, ?_, rep, ?_, List.nodup_cons.2 ⟨new, inv.once⟩⟩
        · exact List.forall_mem_cons.2 ⟨⟨sealed, hs, rfl, rfl⟩, inv.origin⟩
        · exact List.forall_mem_cons.2 ⟨UInt32.le_of_eq phase, inv.phases⟩
        · -- a packet of the current phase is not one of the previous phase
          intro prev found
          obtain ⟨lt, rep'⟩ := inv.previous prev found
          refine ⟨lt, ?_⟩
          rw [accepted_cons_ne]
          · exact rep'
          · intro eq
            rw [← eq, phase] at lt
            exact UInt32.lt_irrefl _ lt
      · obtain ⟨phase, prev, w, found, prevPhase, _, open', rfl⟩ := previous
        obtain ⟨lt, rep'⟩ := inv.previous prev found
        obtain ⟨new, rep⟩ := received_cons rep' prevPhase.symm open'
        refine ⟨inv.kinds, ?_, ?_, ?_, ?_, List.nodup_cons.2 ⟨new, inv.once⟩⟩
        · exact List.forall_mem_cons.2 ⟨⟨sealed, hs, rfl, rfl⟩, inv.origin⟩
        · refine List.forall_mem_cons.2 ⟨?_, inv.phases⟩
          rw [prevPhase] at lt
          exact UInt32.le_of_lt lt
        · show Represents c.receiver.receiveReplay (accepted _ c.receiver.keyPhase)
          rw [accepted_cons_ne phase]
          exact inv.current
        · intro prev' found'
          cases found'
          exact ⟨lt, rep⟩

lemma received_rekey (inv : Received c) {keys : SessionKeys P} {grace : Nat}
    (larger : c.receiver.keyPhase < keyPhase) :
    Received (c.step (.rekeyReceiver keyPhase keys grace now)) := by
  -- nothing of the new phase was returned before
  have none : accepted c.returned keyPhase = ∅ := by
    apply Finset.eq_empty_of_forall_notMem
    intro n mem
    obtain ⟨r, hr, eq, _⟩ := mem_accepted.1 mem
    have le := inv.phases r hr
    rw [eq] at le
    exact UInt32.not_lt.2 le larger
  have fresh : Represents ReplayWindow.default (accepted c.returned keyPhase) := by
    rw [none]
    exact Represents.init
  have phases : ∀ r ∈ c.returned, r.1.header.keyPhase ≤ keyPhase :=
    fun r mem => UInt32.le_trans (inv.phases r mem) (UInt32.le_of_lt larger)
  obtain same | ⟨_, _, inherits⟩ :=
    inheritPrevious_cases (ProtectedSession.new P c.receiver.sessionId keyPhase keys now)
      c.receiver grace now
  · rw [step, rekeyed, same]
    exact ⟨inv.kinds, inv.origin, phases, fresh, (fun prev found => by cases found), inv.once⟩
  · rw [step, rekeyed, inherits]
    refine ⟨inv.kinds, inv.origin, phases, fresh, ?_, inv.once⟩
    intro prev found
    cases found
    exact ⟨larger, inv.current⟩

lemma received_sealing (inv : Received c) (kind : PacketKind) (plaintext : List UInt8) :
    Received (c.step (.sealing kind plaintext)) := by
  cases sealed : c.sender.sealPacket kind plaintext with
  | mk result sender =>
    cases result with
    | error e =>
      simp only [step, sealed]
      exact ⟨inv.kinds, inv.origin, inv.phases, inv.current, inv.previous, inv.once⟩
    | ok packet =>
      obtain ⟨_, _, header, _⟩ := sealPacket_ok sealed
      simp only [step, sealed]
      refine ⟨?_, ?_, inv.phases, inv.current, inv.previous, inv.once⟩
      · intro e mem
        cases mem with
        | head => exact congrArg Header.kind header
        | tail _ mem => exact inv.kinds e mem
      · intro r mem
        obtain ⟨e, he, eq⟩ := inv.origin r mem
        exact ⟨e, .tail _ he, eq⟩

lemma received_step {e : Event P} (inv : Received c) (valid : Valid c e) : Received (c.step e) := by
  cases e with
  | sealing kind plaintext => exact received_sealing inv kind plaintext
  | rekeySender keyPhase keys grace now =>
    exact ⟨inv.kinds, inv.origin, inv.phases, inv.current, inv.previous, inv.once⟩
  | rekeyReceiver keyPhase keys grace now => exact received_rekey inv valid
  | deliver packet now => exact received_deliver inv valid

lemma step_forged {e : Event P} (valid : Valid c e) (forged : c.forged e = true) :
    c.step e = c := by
  cases e with
  | sealing kind plaintext => cases forged
  | rekeySender keyPhase keys grace now => cases forged
  | rekeyReceiver keyPhase keys grace now => cases forged
  | deliver packet now =>
    cases opened : c.receiver.openPacket packet now with
    | mk result receiver =>
      cases result with
      | error e =>
        simp only [step, opened, openPacket_refused opened]
      | ok m =>
        obtain ⟨e, he, eq, _⟩ := sealed_of_openPacket valid opened
        simp only [Channel.forged, genuine, Bool.not_eq_true', List.any_eq_false] at forged
        exact absurd (decide_eq_true eq) (forged e he)

/-- The genuine packets get the same results without the forged ones. -/
lemma results_strip {es : List (Event P)} (valid : EachStep step Valid c es) :
    results c es = results c (strip c es) ∧ run step c es = run step c (strip c es) := by
  induction es generalizing c with
  | nil => exact ⟨rfl, rfl⟩
  | cons e es ih =>
    obtain ⟨now, later⟩ := eachStep_cons.1 valid
    obtain ⟨sameResults, sameState⟩ := ih later
    rw [strip]
    cases forged : c.forged e with
    | true =>
      have same := step_forged now forged
      rw [same] at sameResults sameState later
      simp only [if_true, run_cons, same]
      refine ⟨?_, sameState⟩
      cases e with
      | deliver packet time =>
        have no : c.genuine packet = false := by simpa [Channel.forged] using forged
        simp only [results, no, Bool.false_eq_true, if_false, same]
        exact sameResults
      | _ => cases forged
    | false =>
      simp only [Bool.false_eq_true, if_false, run_cons]
      refine ⟨?_, sameState⟩
      cases e with
      | deliver packet time => simp only [results, sameResults]
      | _ => exact sameResults

/-- What `open` returned was sealed by the sender, and nothing was returned twice; genuine packets
get the results they get without the forged ones; a failed `open` leaves the session unchanged. -/
theorem delivered_once_and_untampered {sessionId : SessionId} {senderPhase receiverPhase : UInt32}
    {senderKeys receiverKeys : SessionKeys P} {now : Nat} {es : List (Event P)} {c₀ c : Channel P}
    (start : c₀ = init sessionId senderPhase receiverPhase senderKeys receiverKeys now)
    (valid : EachStep step Valid c₀ es) (reached : c = run step c₀ es) :
    (∀ r ∈ c.returned, ∃ e ∈ c.sent, e.packet = r.1 ∧ e.kind = r.1.header.kind ∧
        e.plaintext = r.2) ∧
      (c.returned.map Prod.fst).Nodup ∧ results c₀ es = results c₀ (strip c₀ es) ∧
      c = run step c₀ (strip c₀ es) ∧
      (∀ (s : ProtectedSession P) packet time e, (s.openPacket packet time).1 = .error e →
        (s.openPacket packet time).2 = s) := by
  subst start reached
  have start : Received (init sessionId senderPhase receiverPhase senderKeys receiverKeys now) := by
    refine ⟨?_, ?_, ?_, Represents.init, ?_, List.nodup_nil⟩
    · intro e mem
      cases mem
    · intro r mem
      cases mem
    · intro r mem
      cases mem
    · intro prev found
      cases found
  have inv := run_invariant start (fun c e => received_step) valid
  obtain ⟨sameResults, sameState⟩ := results_strip valid
  refine ⟨?_, inv.once, sameResults, sameState, fun s packet time e => openPacket_error⟩
  intro r mem
  obtain ⟨e, he, packet, plaintext⟩ := inv.origin r mem
  refine ⟨e, he, packet, ?_, plaintext⟩
  rw [← packet, inv.kinds e he]

def sampleKeys (label : List UInt8) : SessionKeys transparent where
  send := ([], s(Bytes.zero 32, Bytes.zero 32), label)
  receive := ([], s(Bytes.zero 32, Bytes.zero 32), label)

def sampleChannel : Channel transparent :=
  init SessionId.zero 0 0 (sampleKeys [7]) (sampleKeys [7]) 0

def samplePacket : Packet where
  header := { kind := .data, keyPhase := 0, sequence := 0, sessionId := SessionId.zero }
  payload := [1, 2] ++
    transparentTag [7] (packetNonce 0 0) (Header.encode ⟨.data, 0, 0, SessionId.zero⟩)

def sampleRun : List (Event transparent) :=
  [.sealing .data [1, 2], .deliver samplePacket 0, .rekeyReceiver 1 (sampleKeys [8]) 30 1,
    .deliver samplePacket 2, .deliver { samplePacket with payload := [] } 3]

lemma valid_sampleRun : EachStep step Valid sampleChannel sampleRun := by
  simp only [sampleRun, eachStep_cons]
  refine ⟨trivial, ?_, ?_, ?_, ?_, eachStep_nil⟩
  · intro k mem m h
    change k ∈ [(sampleKeys [7]).receive] at mem
    cases mem with
    | head =>
      cases (show some [1, 2] = some m from h)
      exact .head _
    | tail _ mem => cases mem
  · show (0 : UInt32) < 1
    decide
  · intro k mem m h
    change k ∈ [(sampleKeys [8]).receive, (sampleKeys [7]).receive] at mem
    cases mem with
    | head => cases (show none = some m from h)
    | tail _ mem =>
      cases mem with
      | head =>
        cases (show some [1, 2] = some m from h)
        exact .head _
      | tail _ mem => cases mem
  · intro k mem m h
    change k ∈ [(sampleKeys [8]).receive, (sampleKeys [7]).receive] at mem
    cases mem with
    | head => cases (show none = some m from h)
    | tail _ mem =>
      cases mem with
      | head => cases (show none = some m from h)
      | tail _ mem => cases mem

/-- The packet is returned once, though handed in under both phases. -/
theorem delivered_once_sampleRun :
    (run step sampleChannel sampleRun).returned = [(samplePacket, [1, 2])] ∧
      ((run step sampleChannel sampleRun).returned.map Prod.fst).Nodup :=
  ⟨by decide +kernel, (delivered_once_and_untampered rfl valid_sampleRun rfl).2.1⟩

end Channel
end Rvpn.Protocol
