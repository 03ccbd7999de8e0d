import Rvpn.Server.Lifetime

/-!
# Finishes that the responder rejects

`finish_pending` takes the pending entry out of the table before it looks at the payload. A packet
that names the entry, comes from its endpoint and has its kind consumes the entry whatever it
carries. Every other packet leaves the tables alone.
-/

namespace Rvpn.Server
open Config Crypto Protocol Routing

variable {P : Primitives}

/-- The payload is no finish, or the responder rejects it. -/
def Rejected (state : PendingHandshake P) (payload : List UInt8) (clock : Clock) : Prop :=
  ∀ message, HandshakeMessage.decode payload = .ok message →
    ∃ e, state.handshake.finish message clock = .error e

/-- Entry and sessions are as before, and what completed still does. -/
structure Undamaged (parser : AddressParser) (pending : PendingHandshakes P)
    (active : ActivePeers P) (state : PendingHandshake P) (result : Finished P) :
    Prop where
  samePending : result.pending = pending
  sameActive : result.active = active
  accepts : ∀ endpoint packet clock session remote identity,
    Completes parser pending endpoint packet clock state session remote identity →
    Completes parser result.pending endpoint packet clock state session remote identity

section
variable {parser : AddressParser} {pending : PendingHandshakes P}
  {active : ActivePeers P} {endpoint : SocketAddr} {packet : Packet}
  {gracePeriod rxRate : Nat} {clock : Clock} {state : PendingHandshake P}

lemma finishPending_of_mismatch (found : pending.entries.lookup packet.header.sessionId = some state)
    (mismatch : state.endpoint ≠ endpoint ∨ state.kind ≠ packet.header.kind) :
    finishPending parser pending active endpoint packet gracePeriod rxRate clock =
      { pending := pending, active := active, evicted := [], installed := none } := by
  simp only [finishPending, found, if_pos mismatch]

lemma finishPending_of_rejected (found : pending.entries.lookup packet.header.sessionId = some state)
    (matching : ¬ (state.endpoint ≠ endpoint ∨ state.kind ≠ packet.header.kind))
    (rejected : Rejected state packet.payload clock) :
    finishPending parser pending active endpoint packet gracePeriod rxRate clock =
      { pending := pending.remove packet.header.sessionId
        active := active
        evicted := []
        installed := none } := by
  simp only [finishPending, found, if_neg matching]
  cases decoded : HandshakeMessage.decode packet.payload with
  | error e => rfl
  | ok message =>
    obtain ⟨e, refused⟩ := rejected message decoded
    simp only [refused]

end

/-- A packet for a pending handshake that is no finish or is rejected leaves it undamaged exactly if
it has another endpoint or kind. -/
theorem rejected_finish_iff (parser : AddressParser) (pending : PendingHandshakes P)
    (active : ActivePeers P) (id : SessionId) (state : PendingHandshake P)
    (found : pending.entries.lookup id = some state) (endpoint : SocketAddr) (packet : Packet)
    (named : packet.header.sessionId = id) (gracePeriod rxRate : Nat) (clock : Clock)
    (rejected : Rejected state packet.payload clock) : Undamaged parser pending active state
        (finishPending parser pending active endpoint packet gracePeriod rxRate clock) ↔
      state.endpoint ≠ endpoint ∨ state.kind ≠ packet.header.kind := by
  subst named
  refine ⟨?_, ?_⟩
  · intro undamaged
    by_contra matching
    have same := undamaged.samePending
    rw [finishPending_of_rejected found matching rejected] at same
    rw [← same] at found
    exact (lookup_pending_remove found).1 rfl
  · intro mismatch
    rw [finishPending_of_mismatch found mismatch]
    exact ⟨rfl, rfl, fun _ _ _ _ _ _ completes => completes⟩

namespace ServerLoop

section Forged
open Primitives Trace

lemma exists_pending_opening : ∃ state,
    (afterOpening []).pending.entries.lookup drawnId = some state ∧ state.endpoint = clientEndpoint := by
  have pending : ((afterOpening []).pending.entries.lookup drawnId).map PendingHandshake.endpoint =
      some clientEndpoint := by
    decide +kernel
  exact Option.map_eq_some_iff.1 pending

/-- An attacker's packet from the client's endpoint while it is pending. -/
def forgedFinish : Packet :=
  ⟨{ kind := .handshake, keyPhase := 0, sequence := 1, sessionId := drawnId }, []⟩

def forging : Event :=
  .datagram clientEndpoint forgedFinish.encode

/-- From another port the forged packet does no harm. -/
theorem rejected_finish_iff_other_port : ∃ state,
    (afterOpening []).pending.entries.lookup drawnId = some state ∧
      Undamaged (deviceSetup (none, none)).parser (afterOpening []).pending (afterOpening []).active
        state (finishPending (deviceSetup (none, none)).parser (afterOpening []).pending
          (afterOpening []).active { clientEndpoint with port := 1 } forgedFinish 0 0 ⟨0, 0⟩) := by
  obtain ⟨state, found, endpoint⟩ := exists_pending_opening
  refine ⟨state, found, ?_⟩
  refine (rejected_finish_iff _ _ _ drawnId state found _ forgedFinish rfl 0 0 ⟨0, 0⟩ ?_).2 (.inl ?_)
  · intro message decoded
    cases decoded
  · rw [endpoint]
    decide

/-- After the forged packet the peer's finish does nothing. -/
theorem forged_finish_consumes_pending :
    ∃ state, (afterOpening []).pending.entries.lookup drawnId = some state ∧
      Rejected state forgedFinish.payload ⟨0, 0⟩ ∧
      ¬ Undamaged (deviceSetup (none, none)).parser (afterOpening []).pending (afterOpening []).active
        state (finishPending (deviceSetup (none, none)).parser (afterOpening []).pending
          (afterOpening []).active clientEndpoint forgedFinish 0 0 ⟨0, 0⟩) ∧
      drawnId ∈ (afterOpening [finishing]).active.keys ∧
      drawnId ∉ (afterOpening [forging]).pending.entries.keys ∧
      drawnId ∉ (afterOpening [forging, finishing]).active.keys := by
  obtain ⟨state, found, _⟩ := exists_pending_opening
  have consumed : drawnId ∉ (finishPending (deviceSetup (none, none)).parser (afterOpening []).pending
      (afterOpening []).active clientEndpoint forgedFinish 0 0 ⟨0, 0⟩).pending.entries.keys := by
    decide +kernel
  refine ⟨state, found, ?_, ?_, ?_, ?_, ?_⟩
  · intro message decoded
    cases decoded
  · intro undamaged
    rw [undamaged.samePending] at consumed
    exact consumed (AList.mem_keys.1 (HashMap.mem_iff_lookup.2 ⟨state, found⟩))
  · decide +kernel
  · decide +kernel
  · decide +kernel

end Forged

end ServerLoop

end Rvpn.Server
