import Rvpn.Server.IdentityTrial
import Rvpn.Server.Pending

/-!
# The size of the table of pending handshakes

`begin_initial` compares the length of the table with `MAX_PENDING_HANDSHAKES` once, and then inserts
an entry for every identity and one for the certificate authority; `begin_rekey` does not look at the
length. `pending_cap` says what keeps the table within the maximum: room for all entries of a call
before the call.
-/

namespace Rvpn.Server
open Config Crypto Protocol
variable {P : Primitives}

namespace PendingHandshakes

lemma len_insert_le (p : PendingHandshakes P) (id : SessionId) (state : PendingHandshake P) :
    (p.insert id state).len ≤ p.len + 1 := by
  rw [len, PendingHandshakes.insert, AList.keys_insert]
  exact Nat.succ_le_succ (List.length_erase_le)

lemma len_insert_new {p : PendingHandshakes P} {id : SessionId} (absent : id ∉ p.entries)
    (state : PendingHandshake P) : (p.insert id state).len = p.len + 1 := by
  have unlisted : id ∉ p.entries.keys := fun mem => absent (AList.mem_keys.2 mem)
  rw [len, PendingHandshakes.insert, AList.keys_insert, List.erase_of_not_mem unlisted]
  rfl

lemma len_remove_le (p : PendingHandshakes P) (id : SessionId) : (p.remove id).len ≤ p.len := by
  rw [len, PendingHandshakes.remove, AList.keys_erase]
  exact List.length_erase_le

lemma len_retain_le (p : PendingHandshakes P) (keep : PendingHandshake P → Bool) :
    (p.retain keep).len ≤ p.len :=
  (List.filter_sublist.map _).length_le

lemma entriesFrom_le_len (p : PendingHandshakes P) (source : SocketAddr) :
    p.entriesFrom source ≤ p.len := by
  have same : p.entries.values.length = p.len := by
    simp only [HashMap.values, len, AList.keys, List.keys, List.length_map]
  exact same ▸ List.countP_le_length

end PendingHandshakes

lemma Responds.len_le {endpoint : SocketAddr} {limit : Nat} {p p' : PendingHandshakes P}
    {packets : List Packet} (h : Responds endpoint limit p packets p') :
    p'.len ≤ p.len + packets.length := by
  induction h with
  | nil => exact Nat.le_add_right _ _
  | @cons p p' packets state _ _ _ _ ih =>
    have grown := p.len_insert_le state.packet.header.sessionId state
    rw [List.length_cons]
    omega

section
variable (pending : PendingHandshakes P) (endpoint : SocketAddr) (initiation : HandshakeMessage)

lemma tryRespond_length (source : PendingSource) (auth : AuthConfig) (draw : HandshakeDraw) :
    (tryRespond pending endpoint initiation source auth draw).2.length ≤ 1 := by
  obtain same | ⟨_, _, _, _, _, eq⟩ :=
    tryRespond_cases pending endpoint initiation source auth draw
  · rw [same]
    exact Nat.zero_le 1
  · rw [eq]
    exact Nat.le_refl 1

lemma tryIdentities_length (limit : Nat) (numbered : List (PeerIdentity × HandshakeDraw)) :
    (tryIdentities endpoint initiation limit numbered pending).2.length ≤ numbered.length := by
  induction numbered generalizing pending with
  | nil => exact Nat.le_refl 0
  | cons entry rest ih =>
    obtain ⟨identity, draw⟩ := entry
    rw [tryIdentities]
    split
    · exact Nat.zero_le _
    · have one := tryRespond_length pending endpoint initiation (.known identity) identity.auth draw
      have others := ih
        (tryRespond pending endpoint initiation (.known identity) identity.auth draw).1
      rw [List.length_append, List.length_cons]
      omega

lemma beginInitial_length (identities : List PeerIdentity)
    (certificateAuthority : Option CertificateAuthorityConfig) (limit : Nat)
    (draws : Nat → HandshakeDraw) :
    (beginInitial identities certificateAuthority pending endpoint initiation limit draws).2.length ≤
      identities.length + certificateAuthority.toList.length := by
  have known := tryIdentities_length pending endpoint initiation limit
    (identities.zip ((List.range identities.length).map draws))
  rw [List.length_zip, List.length_map, List.length_range, Nat.min_self] at known
  have outcome := beginInitial_outcome pending endpoint initiation limit identities
    certificateAuthority draws
  generalize beginInitial identities certificateAuthority pending endpoint initiation limit draws =
    result at outcome
  cases outcome with
  | refused => exact Nat.zero_le _
  | known => exact known.trans (Nat.le_add_right _ _)
  | authority _ _ ca auth result configured _ eq =>
    subst eq configured
    rw [List.length_append]
    exact Nat.add_le_add known (tryRespond_length _ endpoint initiation _ _ _)

lemma beginRekey_length (current : ActivePeer P) (limit : Nat) (draw : HandshakeDraw) :
    (beginRekey pending endpoint current initiation limit draw).2.length ≤ 1 := by
  have outcome := beginRekey_outcome pending endpoint initiation limit current draw
  generalize beginRekey pending endpoint current initiation limit draw = result at outcome
  cases outcome with
  | ignored => exact Nat.zero_le 1
  | answered => exact Nat.le_refl 1

end

/-- The table has room for all that a call which passes may insert. -/
def Call.Fits (p : PendingHandshakes P) : Call P → Prop
  | .beginInitial identities certificateAuthority _ _ _ =>
    p.len < maxPendingHandshakes →
      p.len + (identities.length + certificateAuthority.toList.length) ≤ maxPendingHandshakes
  | .beginRekey _ _ _ _ => p.len < maxPendingHandshakes
  | .finishPending _ _ _ _ _ _ _ => True
  | .retransmitPending => True

lemma Ledger.cap_step {limit retryLimit : Nat} {l : Ledger P} {call : Call P}
    (h : l.pending.len ≤ maxPendingHandshakes) (fits : call.Fits l.pending) :
    (l.step limit retryLimit call).pending.len ≤ maxPendingHandshakes := by
  cases call with
  | beginInitial identities certificateAuthority endpoint initiation draws =>
    simp only [step, pending_foldl_issue]
    by_cases full : maxPendingHandshakes ≤ l.pending.len
    · rw [beginInitial, if_pos full]
      exact h
    · have grown := (beginInitial_responds endpoint limit identities certificateAuthority l.pending
        initiation draws).len_le
      have sent := beginInitial_length l.pending endpoint initiation identities certificateAuthority
        limit draws
      exact grown.trans ((Nat.add_le_add_left sent _).trans (fits (Nat.lt_of_not_le full)))
  | beginRekey endpoint current initiation draw =>
    simp only [step, pending_foldl_issue]
    have grown := (beginRekey_responds endpoint limit l.pending current initiation draw).len_le
    have sent := beginRekey_length l.pending endpoint initiation current limit draw
    exact grown.trans ((Nat.add_le_add_left sent _).trans fits)
  | finishPending parser active endpoint packet gracePeriod rxRate clock =>
    simp only [step]
    obtain eq | eq := finishPending_pending parser l.pending active endpoint packet gracePeriod rxRate
      clock
    · rw [eq]
      exact h
    · rw [eq]
      exact (l.pending.len_remove_le _).trans h
  | retransmitPending =>
    have kept : (l.step limit retryLimit .retransmitPending).pending.len =
        (l.pending.retain fun state => decide (state.attempts < retryLimit)).len :=
      congrArg List.length (HashMap.keys_mapVal _ _)
    rw [kept]
    exact (l.pending.len_retain_le _).trans h

/-- If the table has room for all entries of each call, it never has more than `MAX_PENDING_HANDSHAKES`. -/
theorem pending_cap (limit retryLimit : Nat) (calls : List (Call P))
    (fits : EachStep (Ledger.step limit retryLimit) (fun l call => call.Fits l.pending)
      (Ledger.empty P) calls) :
    Always (Ledger.step limit retryLimit) (fun l => l.pending.len ≤ maxPendingHandshakes)
      (Ledger.empty P) calls :=
  always_of_eachStep (Nat.zero_le _) (fun _ _ h fits => Ledger.cap_step h fits) fits

section Crowd
open Primitives

/-- With two identities, an initiation fits into an empty table. -/
theorem pending_cap_crowd :
    EachStep (Ledger.step 8 2) (fun l call => call.Fits l.pending) (Ledger.empty transparent)
        crowdCalls ∧
      (run (Ledger.step 8 2) (Ledger.empty transparent) crowdCalls).pending.len ≤
        maxPendingHandshakes := by
  have fits : EachStep (Ledger.step 8 2) (fun l call => call.Fits l.pending)
      (Ledger.empty transparent) crowdCalls := by
    refine eachStep_cons.2 ⟨?_, eachStep_cons.2 ⟨trivial, eachStep_cons.2 ⟨trivial, eachStep_nil⟩⟩⟩
    intro _
    show 0 + (2 + 0) ≤ maxPendingHandshakes
    decide
  exact ⟨fits, (pending_cap 8 2 crowdCalls fits).last⟩

lemma tryRespond_crowd (pending : PendingHandshakes transparent) (identity : PeerIdentity) (n : Nat) :
    ∃ state, (tryRespond pending clientEndpoint crowdInitiation (.known identity) identity.auth
      (crowdDraw n)).1 = pending.insert ⟨Bytes.ofList 16 (beBytes 16 n)⟩ state := by
  obtain ⟨handshake, response, accepted⟩ := acceptForSession_total transparent_correct
    (show transparent.dh (keyOf 10) (keyOf 3) = some s(keyOf 10, keyOf 3) from rfl)
    identity.auth.identity identity.auth.verifier (keyOf 4) none
    (HandshakeMessage.computeMac1 transparent
      (AuthVerifier.mac1Key transparent (.pinnedKey (keyOf 8))) (keyOf 3) (keyOf 4) none)
    ⟨Bytes.ofList 16 (beBytes 16 n)⟩ 0 (keyOf 11)
  have answered : (tryRespond pending clientEndpoint crowdInitiation (.known identity) identity.auth
      (crowdDraw n)).2 = [handshakePacket .handshake 0 _ response] :=
    tryRespond_of_accepted pending (.known identity) accepted
  obtain same | ⟨id, handshake, response, drawn, _, eq⟩ :=
    tryRespond_cases pending clientEndpoint crowdInitiation (.known identity) identity.auth
      (crowdDraw n)
  · rw [same] at answered
    cases answered
  · have named : id = ⟨Bytes.ofList 16 (beBytes 16 n)⟩ := by
      cases id
      exact congrArg SessionId.mk (Option.some.inj drawn).symm
    rw [eq, named]
    exact ⟨_, rfl⟩

lemma crowdId_inj {m n : Nat} (hm : m < 256 ^ 16) (hn : n < 256 ^ 16)
    (same : Bytes.ofList 16 (beBytes 16 m) = Bytes.ofList 16 (beBytes 16 n)) : m = n := by
  have lists := Bytes.toList_inj.2 same
  rw [Bytes.toList_ofList (length_beBytes 16 m), Bytes.toList_ofList (length_beBytes 16 n)] at lists
  exact beBytes_inj hm hn lists

lemma len_tryIdentities_crowd {limit : Nat} {numbered : List (PeerIdentity × Nat)}
    {pending : PendingHandshakes transparent} (counted : pending.Counted)
    (room : pending.len + numbered.length ≤ limit) (few : ∀ entry ∈ numbered, entry.2 < 256 ^ 16)
    (distinct : (numbered.map Prod.snd).Nodup)
    (unused : ∀ entry ∈ numbered, ⟨Bytes.ofList 16 (beBytes 16 entry.2)⟩ ∉ pending.entries) :
    (tryIdentities clientEndpoint crowdInitiation limit
      (numbered.map fun entry => (entry.1, crowdDraw entry.2)) pending).1.len =
        pending.len + numbered.length := by
  induction numbered generalizing pending with
  | nil => rfl
  | cons entry rest ih =>
    obtain ⟨identity, n⟩ := entry
    obtain ⟨state, answered⟩ := tryRespond_crowd pending identity n
    obtain ⟨apart, distinct⟩ := List.nodup_cons.1 distinct
    obtain ⟨small, few⟩ := List.forall_mem_cons.1 few
    obtain ⟨absent, unused⟩ := List.forall_mem_cons.1 unused
    rw [List.length_cons] at room ⊢
    have grown : (pending.insert ⟨Bytes.ofList 16 (beBytes 16 n)⟩ state).len = pending.len + 1 :=
      PendingHandshakes.len_insert_new absent state
    -- the source has no more entries than the table
    have below : ¬ limit ≤ pending.countFor clientEndpoint := by
      have entries := pending.entriesFrom_le_len clientEndpoint
      rw [counted.countFor]
      omega
    rw [List.map_cons, tryIdentities, if_neg below]
    change (tryIdentities clientEndpoint crowdInitiation limit _ (tryRespond pending clientEndpoint
      crowdInitiation (.known identity) identity.auth (crowdDraw n)).1).1.len = _
    rw [answered]
    refine (ih (counted.insert _ state) (by omega) few distinct ?_).trans (by omega)
    intro other mem listed
    rcases (AList.mem_insert _).1 listed with same | before
    · -- the id of a later entry is not the one just inserted
      have equal := crowdId_inj (few other mem) small (congrArg SessionId.bytes same)
      exact apart (equal ▸ List.mem_map_of_mem mem)
    · exact unused other mem before

/-- Without an authority an initiation goes to the identities. -/
lemma beginInitial_known {identities : List PeerIdentity} {pending : PendingHandshakes P}
    {endpoint : SocketAddr} {initiation : HandshakeMessage} {limit : Nat}
    {draws : Nat → HandshakeDraw} (few : ¬ maxPendingHandshakes ≤ pending.len)
    (room : ¬ limit ≤ pending.countFor endpoint) :
    beginInitial identities none pending endpoint initiation limit draws =
      tryIdentities endpoint initiation limit
        (identities.zip ((List.range identities.length).map draws)) pending := by
  rw [beginInitial, if_neg few, if_neg room]

def crowd (count : Nat) : List PeerIdentity :=
  (List.range count).map crowdPeer

lemma len_crowd {count limit : Nat} (retryLimit : Nat) (small : count < 256 ^ 16)
    (room : count ≤ limit) (allowed : 0 < limit) :
    (run (Ledger.step limit retryLimit) (Ledger.empty transparent)
      [.beginInitial (crowd count) none clientEndpoint crowdInitiation crowdDraw]).pending.len =
        count := by
  let numbered := (List.range count).map fun n => (crowdPeer n, n)
  have size : numbered.length = count := by rw [List.length_map, List.length_range]
  have listed : (crowd count).zip ((List.range (crowd count).length).map crowdDraw) =
      numbered.map fun entry => (entry.1, crowdDraw entry.2) := by
    rw [crowd, List.length_map, List.length_range, List.zip_map', List.map_map]
    rfl
  have few : ¬ maxPendingHandshakes ≤ (PendingHandshakes.default transparent).len := by decide
  have below : ¬ limit ≤ (PendingHandshakes.default transparent).countFor clientEndpoint :=
    Nat.not_le_of_lt allowed
  rw [run_cons, run_nil, Ledger.step, Ledger.pending_foldl_issue]
  change (beginInitial (crowd count) none (PendingHandshakes.default transparent) clientEndpoint
    crowdInitiation limit crowdDraw).1.len = count
  rw [beginInitial_known few below, listed]
  refine (len_tryIdentities_crowd .default ?_ ?_ ?_ fun _ _ => AList.notMem_empty _).trans ?_
  · rw [size]
    exact (Nat.zero_add count).trans_le room
  · intro entry mem
    obtain ⟨n, below, rfl⟩ := List.mem_map.1 mem
    exact (List.mem_range.1 below).trans small
  · rw [List.map_map]
    exact (List.map_id _).symm ▸ List.nodup_range
  · rw [size]
    exact Nat.zero_add count

/-- A single initiation to 4097 peers inserts an entry for each. -/
theorem burst_exceeds_cap :
    (run (Ledger.step (perSourcePendingLimit (crowd 4097) none) 5) (Ledger.empty transparent)
        [.beginInitial (crowd 4097) none clientEndpoint crowdInitiation crowdDraw]).pending.len =
          4097 ∧
      ¬ Always (Ledger.step (perSourcePendingLimit (crowd 4097) none) 5)
        (fun l => l.pending.len ≤ maxPendingHandshakes) (Ledger.empty transparent)
        [.beginInitial (crowd 4097) none clientEndpoint crowdInitiation crowdDraw] := by
  have limit : perSourcePendingLimit (crowd 4097) none = 8194 := by
    rw [perSourcePendingLimit, crowd, List.length_map, List.length_range]
    rfl
  have reached : (run (Ledger.step (perSourcePendingLimit (crowd 4097) none) 5)
      (Ledger.empty transparent)
      [.beginInitial (crowd 4097) none clientEndpoint crowdInitiation crowdDraw]).pending.len =
        4097 := by
    rw [limit]
    exact len_crowd 5 (by decide) (by decide) (by decide)
  refine ⟨reached, ?_⟩
  intro capped
  have bound := capped.last
  rw [reached] at bound
  exact absurd bound (by decide)

end Crowd
end Rvpn.Server
