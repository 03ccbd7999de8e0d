import Mathlib.Data.Multiset.Bind
import Rvpn.Routing.LinkPolicy

/-!
# The four tables of the router

A router keeps what it knows more than once: a learned MAC address is in the map `macs` and in the
entry of its owner, a network is in the entry of its session and in `table`, and a receiver set names
entries of `peers`. `Consistent` says that the copies agree.
-/

namespace Rvpn.Routing
open HashMap

/-- The address is there and lies in one of the networks. -/
def SourceIn (allowedIps : List IpNet) (source : Option IpAddr) : Prop :=
  ∃ address, source = some address ∧ ∃ net ∈ allowedIps, net.contains address = true

namespace Router

def routes (peers : HashMap SessionId PeerEntry) : Multiset (IpNet × SessionId) :=
  (peers.toPairs : Multiset (SessionId × PeerEntry)).bind fun entry =>
    (entry.2.allowedIps : Multiset IpNet).map fun net => (net, entry.1)

structure Consistent (r : Router) : Prop where
  owned : ∀ mac id,
    r.macs.lookup mac = some id ↔ ∃ peer, r.peers.lookup id = some peer ∧ mac ∈ peer.macs
  limited : ∀ id peer, r.peers.lookup id = some peer → peer.macs.card ≤ maxMacsPerPeer
  unicast : ∀ mac ∈ r.macs, isBroadcastOrMulticastMac mac = false
  linked : ∀ id peer, r.peers.lookup id = some peer →
    ∀ other ∈ peer.linked, other ≠ id ∧ other ∈ r.peers
  table : (r.table : Multiset (IpNet × SessionId)) = routes r.peers

/-- A MAC address loses its owner only when that leaves or registers again. -/
def KeepsOwners (r : Router) : Prop :=
  ∀ e mac owner, r.macs.lookup mac = some owner → (step r e).macs.lookup mac ≠ some owner →
    e = .unregister owner ∨ ∃ name allowedIps, e = .register owner name allowedIps

/-- A delivery goes to other registered sessions, from the sender's address. -/
structure Delivery.Safe (r : Router) (sender : SessionId) (source : Option IpAddr)
    (delivery : Delivery) : Prop where
  registered : ∀ id ∈ delivery.peers, id ∈ r.peers
  others : sender ∉ delivery.peers
  source : ∃ peer, r.peers.lookup sender = some peer ∧ SourceIn peer.allowedIps source

/-- What the router hands out; a frame that fails a check changes nothing. -/
structure Forwards (r : Router) : Prop where
  routeIp : ∀ sender packet delivery, r.routeIp sender packet = .forward delivery →
    Delivery.Safe r sender (packetSource packet) delivery
  routeFrame : ∀ sender frame delivery, (r.routeFrame sender frame).1 = .forward delivery →
    Delivery.Safe r sender (ethernetPayloadIp frame false) delivery
  routeFromLocalIp : ∀ packet id, r.routeFromLocalIp packet = some id → id ∈ r.peers
  routeFromLocalFrame : ∀ frame, ∀ id ∈ r.routeFromLocalFrame frame, id ∈ r.peers
  unchanged : ∀ sender frame reason, (r.routeFrame sender frame).1 = .drop reason →
    reason ∈ [.unknownSession, .malformed, .unsupportedEthertype, .invalidSourceMac,
      .sourceNotAllowed, .macConflict, .tooManyMacs] →
    (r.routeFrame sender frame).2 = r

section Tables
variable {peers : HashMap SessionId PeerEntry} {r : Router}

lemma mem_routes {net : IpNet} {id : SessionId} :
    (net, id) ∈ routes peers ↔ ∃ peer, peers.lookup id = some peer ∧ net ∈ peer.allowedIps := by
  simp only [routes, Multiset.mem_bind, Multiset.mem_coe, Multiset.mem_map, Prod.exists,
    mem_toPairs, Prod.mk.injEq]
  refine ⟨?_, ?_⟩
  · intro h
    obtain ⟨id', peer, found, net', mem, rfl, rfl⟩ := h
    exact ⟨peer, found, mem⟩
  · intro h
    obtain ⟨peer, found, mem⟩ := h
    exact ⟨id, peer, found, net, mem, rfl, rfl⟩

lemma routes_mapVal {f : SessionId → PeerEntry → PeerEntry}
    (same : ∀ id peer, (f id peer).allowedIps = peer.allowedIps) :
    routes (HashMap.mapVal f peers) = routes peers := by
  simp only [routes, HashMap.toPairs, HashMap.mapVal, List.map_map, ← Multiset.map_coe,
    Multiset.bind_map, Function.comp_def, same]

lemma table_rebuildTable (r : Router) :
    ((rebuildTable r).table : Multiset (IpNet × SessionId)) = routes r.peers := by
  have sorted := List.perm_insertionSort tableOrder (r.peers.toPairs.flatMap fun entry =>
    entry.2.allowedIps.map fun net => (net, entry.1))
  exact (Multiset.coe_eq_coe.2 sorted).trans (Multiset.coe_bind _ _).symm

lemma Consistent.linkedRegistered (h : Consistent r) : LinkedRegistered r :=
  fun id peer found other mem => (h.linked id peer found other mem).2

lemma Consistent.registered (h : Consistent r) {mac : Mac} {id : SessionId}
    (owned : r.macs.lookup mac = some id) : id ∈ r.peers := by
  obtain ⟨peer, found, _⟩ := (h.owned mac id).1 owned
  exact mem_iff_lookup.2 ⟨peer, found⟩

end Tables

/-!
Each call keeps the tables consistent.
-/

section Steps
variable {r : Router}

lemma lookup_macs_unregister (h : Consistent r) (session : SessionId) (mac : Mac) :
    (unregister r session).macs.lookup mac =
      (r.macs.lookup mac).filter fun owner => decide (owner ≠ session) := by
  cases owned : r.macs.lookup mac with
  | none =>
    unfold unregister
    split
    · exact owned
    · show (HashMap.retain _ r.macs).lookup mac = _
      rw [lookup_retain, owned]
      rfl
  | some owner =>
    obtain ⟨entry, registered, mem⟩ := (h.owned mac owner).1 owned
    unfold unregister
    split
    · next absent =>
      have other : owner ≠ session := by
        intro same
        rw [same, absent] at registered
        cases registered
      rw [owned, Option.filter_some, if_pos (decide_eq_true other)]
    · next peer found =>
      show (HashMap.retain _ r.macs).lookup mac = _
      rw [lookup_retain, owned, Option.filter_some, Option.filter_some]
      by_cases same : owner = session
      · -- the entry of the session lists the address, so the loop over it finds this one
        subst same
        rw [found] at registered
        cases registered
        simp [mem]
      · simp [same]

lemma consistent_unregister (h : Consistent r) (session : SessionId) :
    Consistent (unregister r session) := by
  have entries := lookup_unregister h.linkedRegistered session
  refine ⟨?_, ?_, ?_, ?_, ?_⟩
  · intro mac id
    rw [lookup_macs_unregister h, Option.filter_eq_some_iff, h.owned, entries]
    by_cases same : id = session
    · simp [same]
    · simp [same]
  · intro id peer found
    rw [entries] at found
    split at found
    · cases found
    · obtain ⟨p, before, rfl⟩ := Option.map_eq_some_iff.1 found
      exact h.limited id p before
  · intro mac mem
    obtain ⟨owner, owned⟩ := mem_iff_lookup.1 mem
    rw [lookup_macs_unregister h, Option.filter_eq_some_iff] at owned
    exact h.unicast mac (mem_iff_lookup.2 ⟨owner, owned.1⟩)
  · intro id peer found other mem
    rw [entries] at found
    split at found
    · cases found
    · obtain ⟨p, before, rfl⟩ := Option.map_eq_some_iff.1 found
      obtain ⟨left, mem⟩ := Finset.mem_erase.1 mem
      obtain ⟨others, registered⟩ := h.linked id p before other mem
      exact ⟨others, mem_unregister.2 ⟨left, registered⟩⟩
  · unfold unregister
    split
    · exact h.table
    · exact table_rebuildTable _

lemma lookup_register_linked (r : Router) {session id : SessionId} (ne : id ≠ session) (name : String)
    (allowedIps : List IpNet) :
    ∃ f : PeerEntry → Finset SessionId, (∀ p, f p ⊆ insert session p.linked) ∧
      (register r session name allowedIps).peers.lookup id =
        ((unregister r session).peers.lookup id).map fun p => { p with linked := f p } := by
  refine ⟨fun p => if r.links.linked name p.name then insert session p.linked else p.linked, ?_, ?_⟩
  · intro p
    simp only
    split
    · exact fun _ mem => mem
    · exact Finset.subset_insert _ _
  · simp only [register, rebuildTable_peers, AList.lookup_insert_ne ne, lookup_mapVal,
      unregister_links]
    congr 1
    funext p
    split
    · rfl
    · rfl

lemma consistent_register (h : Consistent r) (session : SessionId) (name : String)
    (allowedIps : List IpNet) : Consistent (register r session name allowedIps) := by
  have left := consistent_unregister h session
  have entry := lookup_register_self r session name allowedIps
  refine ⟨?_, ?_, left.unicast, ?_, table_rebuildTable _⟩
  · intro mac id
    refine (left.owned mac id).trans ?_
    by_cases same : id = session
    · subst same
      have absent : (unregister r id).peers.lookup id = none :=
        AList.lookup_eq_none.2 fun mem => (mem_unregister.1 mem).1 rfl
      rw [entry, absent]
      simp
    · obtain ⟨f, _, eq⟩ := r.lookup_register_linked same name allowedIps
      rw [eq]
      simp
  · intro id peer found
    by_cases same : id = session
    · subst same
      rw [entry] at found
      cases found
      simp
    · obtain ⟨f, _, eq⟩ := r.lookup_register_linked same name allowedIps
      rw [eq] at found
      obtain ⟨p, before, rfl⟩ := Option.map_eq_some_iff.1 found
      exact left.limited id p before
  · intro id peer found other mem
    by_cases same : id = session
    · subst same
      rw [entry] at found
      cases found
      obtain ⟨p, before, _⟩ := mem_receivers.1 mem
      obtain ⟨ne, registered⟩ := mem_unregister.1 (mem_iff_lookup.2 ⟨p, before⟩)
      exact ⟨ne, mem_register.2 (.inr registered)⟩
    · obtain ⟨f, subset, eq⟩ := r.lookup_register_linked same name allowedIps
      rw [eq] at found
      obtain ⟨p, before, rfl⟩ := Option.map_eq_some_iff.1 found
      rcases Finset.mem_insert.1 (subset p mem) with new | mem
      · rw [new]
        exact ⟨fun eq => same eq.symm, mem_register.2 (.inl rfl)⟩
      · obtain ⟨others, registered⟩ := left.linked id p before other mem
        exact ⟨others, mem_register.2 (.inr (mem_unregister.1 registered).2)⟩

lemma consistent_replaceLinks (h : Consistent r) (links : Links) :
    Consistent (replaceLinks r links) := by
  refine ⟨?_, ?_, h.unicast, ?_, ?_⟩
  · intro mac id
    refine (h.owned mac id).trans ?_
    rw [replaceLinks, lookup_mapVal]
    simp
  · intro id peer found
    rw [replaceLinks, lookup_mapVal] at found
    obtain ⟨p, before, rfl⟩ := Option.map_eq_some_iff.1 found
    exact h.limited id p before
  · intro id peer found other mem
    rw [replaceLinks, lookup_mapVal] at found
    obtain ⟨p, before, rfl⟩ := Option.map_eq_some_iff.1 found
    obtain ⟨q, registered, skipped, _⟩ := mem_receivers.1 mem
    refine ⟨?_, mem_replaceLinks.2 (mem_iff_lookup.2 ⟨q, registered⟩)⟩
    exact beq_eq_false_iff_ne.1 skipped
  · refine h.table.trans (Eq.symm ?_)
    exact routes_mapVal fun _ _ => by rfl

lemma consistent_learned (h : Consistent r) {sender : SessionId} {peer : PeerEntry} {mac : Mac}
    {r' : Router} (found : r.peers.lookup sender = some peer)
    (unicast : isBroadcastOrMulticastMac mac = false) (learned : Learned r sender peer mac r') :
    Consistent r' := by
  cases learned with
  | known _ => exact h
  | new free room =>
    refine ⟨?_, ?_, ?_, ?_, ?_⟩
    · intro mac' id
      rw [lookup_insert_eq, lookup_modify]
      by_cases same : mac' = mac
      · subst same
        rw [if_pos rfl]
        by_cases self : id = sender
        · subst self
          simp [found]
        · -- nobody owned the address before
          have unowned := h.owned mac' id
          rw [free] at unowned
          rw [if_neg self, ← unowned]
          simp [Ne.symm self]
      · rw [if_neg same, h.owned]
        by_cases self : id = sender
        · simp [self, same]
        · rw [if_neg self]
    · intro id p entry
      rw [lookup_modify_found found] at entry
      split at entry
      · cases entry
        exact (Finset.card_insert_le _ _).trans room
      · exact h.limited id p entry
    · intro mac' mem
      rcases (AList.mem_insert _).1 mem with same | mem
      · rw [same]
        exact unicast
      · exact h.unicast mac' mem
    · intro id p entry other mem
      rw [lookup_modify] at entry
      split at entry
      · obtain ⟨q, before, rfl⟩ := Option.map_eq_some_iff.1 entry
        obtain ⟨others, registered⟩ := h.linked id q before other mem
        exact ⟨others, mem_modify.2 registered⟩
      · obtain ⟨others, registered⟩ := h.linked id p entry other mem
        exact ⟨others, mem_modify.2 registered⟩
    · refine h.table.trans (routes_mapVal fun id p => ?_).symm
      split
      · rfl
      · rfl

lemma consistent_step (h : Consistent r) (e : Event) : Consistent (step r e) := by
  cases e with
  | register session name allowedIps => exact consistent_register h session name allowedIps
  | unregister session => exact consistent_unregister h session
  | replaceLinks links => exact consistent_replaceLinks h links
  | routeFrame sender frame =>
    have outcome := frameOutcome r sender frame
    simp only [step]
    generalize routeFrame r sender frame = result at outcome
    cases outcome with
    | dropped _ => exact h
    | accepted found _ _ unicast learned => exact consistent_learned h found unicast learned

lemma keepsOwners (h : Consistent r) : KeepsOwners r := by
  intro e mac owner owned lost
  -- both `unregister` and `register` remove the addresses of one session
  have leaves : ∀ session, (unregister r session).macs.lookup mac ≠ some owner → session = owner := by
    intro session gone
    rw [lookup_macs_unregister h, owned] at gone
    by_contra other
    exact gone (Option.filter_eq_some_iff.2 ⟨rfl, decide_eq_true (Ne.symm other)⟩)
  cases e with
  | register session name allowedIps =>
    obtain rfl := leaves session lost
    exact .inr ⟨name, allowedIps, rfl⟩
  | unregister session =>
    obtain rfl := leaves session lost
    exact .inl rfl
  | replaceLinks links => exact absurd owned lost
  | routeFrame sender frame =>
    have outcome := frameOutcome r sender frame
    simp only [step] at lost
    generalize routeFrame r sender frame = result at outcome lost
    cases outcome with
    | dropped _ => exact absurd owned lost
    | @accepted _ _ srcMac _ _ _ _ _ _ learned =>
      cases learned with
      | known _ => exact absurd owned lost
      | new free _ =>
        have other : mac ≠ srcMac := by
          intro same
          rw [same, free] at owned
          cases owned
        exact absurd owned (by rwa [AList.lookup_insert_ne other] at lost)

end Steps

/-!
What a consistent router hands out.
-/

section Forwarding
variable {r : Router} {sender : SessionId} {peer : PeerEntry} {delivery : Delivery}

lemma registered_of_owner (h : Consistent r) {address : IpAddr} {id : SessionId}
    (owns : r.owner address = some id) : id ∈ r.peers := by
  obtain ⟨route, found, rfl⟩ := Option.map_eq_some_iff.1 owns
  have mem : route ∈ (r.table : Multiset (IpNet × SessionId)) := List.mem_of_find?_eq_some found
  rw [h.table] at mem
  obtain ⟨peer, found, _⟩ := mem_routes.1 mem
  exact mem_iff_lookup.2 ⟨peer, found⟩

lemma sourceIn_of_allowed {address : IpAddr} (h : peer.sourceAllowed address = true) :
    SourceIn peer.allowedIps (some address) := by
  simp only [PeerEntry.sourceAllowed, Bool.and_eq_true, List.any_eq_true] at h
  exact ⟨address, rfl, h.2⟩

lemma routeIp_forward {packet : List UInt8} (found : r.peers.lookup sender = some peer)
    (h : r.routeIp sender packet = .forward delivery) :
    SourceIn peer.allowedIps (packetSource packet) := by
  unfold routeIp at h
  rw [found] at h
  simp only at h
  split at h
  · next source _ sourceEq _ =>
    rw [sourceEq]
    split at h
    · cases h
    · next allowed => exact sourceIn_of_allowed (by simpa using allowed)
  · cases h

variable {frame : List UInt8}

lemma routeFrame_forward (found : r.peers.lookup sender = some peer)
    (h : (r.routeFrame sender frame).1 = .forward delivery) :
    SourceIn peer.allowedIps (ethernetPayloadIp frame false) := by
  have outcome := frameOutcome r sender frame
  generalize routeFrame r sender frame = result at outcome h
  cases outcome with
  | dropped _ => cases h
  | accepted entry carried allowed _ _ =>
    rw [found] at entry
    cases entry
    rw [carried]
    exact sourceIn_of_allowed allowed

lemma toPeer_safe (h : Consistent r) {source : Option IpAddr} {target : SessionId}
    (found : r.peers.lookup sender = some peer) (linked : target ∈ peer.linked)
    (allowed : SourceIn peer.allowedIps source) :
    Delivery.Safe r sender source (.toPeer target) := by
  obtain ⟨other, registered⟩ := h.linked sender peer found target linked
  refine ⟨?_, ?_, peer, found, allowed⟩
  · intro id mem
    rw [List.mem_singleton.1 mem]
    exact registered
  · intro mem
    exact other (List.mem_singleton.1 mem).symm

lemma onlyLocal_safe {source : Option IpAddr} (found : r.peers.lookup sender = some peer)
    (allowed : SourceIn peer.allowedIps source) : Delivery.Safe r sender source .onlyLocal :=
  ⟨fun _ mem => absurd mem List.not_mem_nil, List.not_mem_nil, peer, found, allowed⟩

lemma routeIp_safe (h : Consistent r) {packet : List UInt8}
    (forwarded : r.routeIp sender packet = .forward delivery) :
    Delivery.Safe r sender (packetSource packet) delivery := by
  cases found : r.peers.lookup sender with
  | none =>
    rw [routeIp, found] at forwarded
    cases forwarded
  | some peer =>
    have allowed := routeIp_forward found forwarded
    unfold routeIp at forwarded
    rw [found] at forwarded
    simp only at forwarded
    split at forwarded
    · split at forwarded
      · cases forwarded
      · split at forwarded
        · cases forwarded
          exact onlyLocal_safe found allowed
        · split at forwarded
          · cases forwarded
          · split at forwarded
            · next linked =>
              cases forwarded
              exact toPeer_safe h found linked allowed
            · cases forwarded
    · cases forwarded

lemma routeFrame_safe (h : Consistent r)
    (forwarded : (r.routeFrame sender frame).1 = .forward delivery) :
    Delivery.Safe r sender (ethernetPayloadIp frame false) delivery := by
  have allowed : ∀ peer, r.peers.lookup sender = some peer →
      SourceIn peer.allowedIps (ethernetPayloadIp frame false) :=
    fun _ found => routeFrame_forward found forwarded
  have same : ∀ id, id ∈ (r.routeFrame sender frame).2.peers ↔ id ∈ r.peers :=
    fun id => mem_routeFrame
  have outcome := frameOutcome r sender frame
  generalize routeFrame r sender frame = result at outcome forwarded same
  cases outcome with
  | dropped _ => cases forwarded
  | @accepted peer _ _ _ r' found _ _ _ _ =>
    have allowed := allowed peer found
    simp only [frameVerdict] at forwarded
    split at forwarded
    · cases forwarded
      refine ⟨?_, ?_, peer, found, allowed⟩
      · intro id mem
        exact (same id).1 (AList.mem_keys.2 (List.mem_filter.1 mem).1)
      · intro mem
        simp at mem
    · split at forwarded
      · split at forwarded
        · cases forwarded
        · split at forwarded
          · next linked =>
            cases forwarded
            exact toPeer_safe h found linked allowed
          · cases forwarded
      · cases forwarded
        exact onlyLocal_safe found allowed

lemma routeFromLocalFrame_registered (h : Consistent r) {id : SessionId}
    (mem : id ∈ r.routeFromLocalFrame frame) : id ∈ r.peers := by
  unfold routeFromLocalFrame at mem
  split at mem
  · cases mem
  · split at mem
    · exact AList.mem_keys.2 mem
    · split at mem
      · next target owned =>
        rw [List.mem_singleton.1 mem]
        exact h.registered owned
      · split at mem
        · next target owns =>
          rw [List.mem_singleton.1 mem]
          obtain ⟨address, _, owns⟩ := Option.bind_eq_some_iff.1 owns
          exact registered_of_owner h owns
        · exact AList.mem_keys.2 mem

/-- Learning is followed by a verdict that no check gives. -/
lemma frameVerdict_drop {linked : Finset SessionId} {dstMac : Mac} {reason : DropReason}
    (h : frameVerdict r sender linked dstMac = .drop reason) : reason ∉ checkFailures := by
  unfold frameVerdict at h
  split at h
  · cases h
  · split at h
    · split at h
      · cases h
        decide
      · split at h
        · cases h
        · cases h
          decide
    · cases h

lemma routeFrame_unchanged {reason : DropReason}
    (dropped : (r.routeFrame sender frame).1 = .drop reason) (check : reason ∈ checkFailures) :
    (r.routeFrame sender frame).2 = r := by
  have outcome := frameOutcome r sender frame
  generalize routeFrame r sender frame = result at outcome dropped
  cases outcome with
  | dropped _ => rfl
  | accepted _ _ _ _ _ => exact absurd check (frameVerdict_drop dropped)

lemma forwards (h : Consistent r) : Forwards r := by
  refine ⟨?_, ?_, ?_, ?_, ?_⟩
  · exact fun sender packet delivery forwarded => routeIp_safe h forwarded
  · exact fun sender frame delivery forwarded => routeFrame_safe h forwarded
  · intro packet id routed
    obtain ⟨address, _, owns⟩ := Option.bind_eq_some_iff.1 routed
    exact registered_of_owner h owns
  · exact fun frame id mem => routeFromLocalFrame_registered h mem
  · exact fun sender frame reason dropped check => routeFrame_unchanged dropped check

end Forwarding

lemma consistent_new (links : Links) : Consistent (new links) := by
  refine ⟨?_, ?_, ?_, ?_, rfl⟩
  · intro mac id
    refine ⟨?_, ?_⟩
    · intro owned
      cases owned
    · intro h
      obtain ⟨peer, found, _⟩ := h
      cases found
  · intro id peer found
    cases found
  · intro mac mem
    exact absurd mem (AList.notMem_empty mac)
  · intro id peer found
    cases found

/-- In every reachable state the tables agree, a MAC address changes its owner only when that leaves
or registers again, and packets go to registered sessions other than the sender. -/
theorem router_sound (links : Links) (es : List Event) :
    Always step (fun r => Consistent r ∧ KeepsOwners r ∧ Forwards r) (new links) es := by
  intro pre post _
  have consistent : Consistent (run step (new links) pre) :=
    run_invariant' (consistent_new links) fun r e h => consistent_step h e
  exact ⟨consistent, keepsOwners consistent, forwards consistent⟩

end Router
end Rvpn.Routing
