import Mathlib.Data.List.Sort
import Mathlib.Data.Finset.Card
import Rvpn.Lib.HashMap
import Rvpn.Lib.Run
import Rvpn.Routing.Packet

/-!
# The peer router

Model of `crates/rvpn-routing/src/router.rs`. `register`, `unregister`, `replaceLinks` and
`routeFrame` change a `Router`; `routeIp` and the `routeFromLocal` functions only read it. A `HashSet`
is a `Finset`; a `HashMap` carries its iteration order (`Rvpn.Lib.HashMap`).
-/

namespace Rvpn.Routing
open HashMap

/-- `MAX_MACS_PER_PEER`. -/
def maxMacsPerPeer : Nat := 16

/-- Why a packet is dropped. -/
inductive DropReason where
  | malformed
  | unsupportedEthertype
  | sourceNotAllowed
  | invalidSourceMac
  | macConflict
  | tooManyMacs
  | noLink
  | hairpin
  | unknownSession
  deriving DecidableEq

/-- `Delivery`: to the local device or not, and the receiving peers. -/
structure Delivery where
  toLocal : Bool
  peers : List SessionId
  deriving DecidableEq

namespace Delivery

/-- `Delivery::local`. -/
def onlyLocal : Delivery where
  toLocal := true
  peers := []

/-- `to_peer`. -/
def toPeer (session : SessionId) : Delivery where
  toLocal := false
  peers := [session]

end Delivery

/-- What becomes of a packet. -/
inductive Verdict where
  | drop (reason : DropReason)
  | forward (delivery : Delivery)
  deriving DecidableEq

/-- `Links`: the directed edges between peer names. -/
structure Links where
  edges : Finset (String × String)
  deriving DecidableEq

namespace Links

/-- `Links::from_groups`: both edges between members of a group. -/
def fromGroups (groups : List (List String)) : Links where
  edges := (groups.flatMap fun group =>
    (group.tails.flatMap fun
      | [] => []
      | a :: rest => rest.flatMap fun b => if a ≠ b then [(a, b), (b, a)] else [])).toFinset

/-- `Links::from_directed_pairs`. -/
def fromDirectedPairs (pairs : List (String × String)) : Links where
  edges := pairs.toFinset

/-- `Links::linked`. -/
def linked (links : Links) (a b : String) : Bool :=
  a != b && decide ((a, b) ∈ links.edges)

end Links

/-- `PeerEntry`: name, addresses, receivers and MAC addresses. -/
structure PeerEntry where
  name : String
  allowedIps : List IpNet
  linked : Finset SessionId
  macs : Finset Mac
  deriving DecidableEq

/-- `PeerEntry::source_allowed`. -/
def PeerEntry.sourceAllowed (peer : PeerEntry) (source : IpAddr) : Bool :=
  !peer.allowedIps.isEmpty && peer.allowedIps.any fun net => net.contains source

/-- `Router`: the peers, the table, the MAC owners and the links. -/
structure Router where
  links : Links
  peers : HashMap SessionId PeerEntry
  table : List (IpNet × SessionId)
  macs : HashMap Mac SessionId

namespace Router

/-- `Router::new`. -/
def new (links : Links) : Router where
  links := links
  peers := ∅
  table := []
  macs := ∅

/-- The table's order: longer prefixes first, then session ids. -/
def tableOrder (a b : IpNet × SessionId) : Prop :=
  b.1.prefixLength < a.1.prefixLength ∨
    (b.1.prefixLength = a.1.prefixLength ∧ a.2.bytes.toList ≤ b.2.bytes.toList)

instance : DecidableRel tableOrder := fun _ _ => inferInstanceAs (Decidable (_ ∨ _))

/-- `Router::rebuild_table`. -/
def rebuildTable (r : Router) : Router :=
  let routes := r.peers.toPairs.flatMap fun (id, peer) =>
    peer.allowedIps.map fun net => (net, id)
  { r with table := routes.insertionSort tableOrder }

/-- `Router::unregister`. -/
def unregister (r : Router) (session : SessionId) : Router :=
  match r.peers.lookup session with
  | none => r
  | some peer =>
    rebuildTable
      { r with
        peers := HashMap.mapVal
          (fun _ other => { other with linked := other.linked.erase session })
          (r.peers.erase session)
        macs := HashMap.retain
          (fun mac owner => !(decide (mac ∈ peer.macs) && decide (owner = session))) r.macs }

/-- The `peers` without `skip` that `links` allow `name` to send to. -/
def receivers (links : Links) (peers : HashMap SessionId PeerEntry) (skip : SessionId → Bool)
    (name : String) : Finset SessionId :=
  ((peers.toPairs.filter fun (id, other) =>
    !skip id && links.linked name other.name).map Prod.fst).toFinset

/-- `Router::replace_links`. -/
def replaceLinks (r : Router) (links : Links) : Router :=
  { r with
    links := links
    peers := HashMap.mapVal
      (fun id peer => { peer with linked := receivers links r.peers (· == id) peer.name }) r.peers }

/-- `Router::register`; both directions ask for the new name's edge only. -/
def register (r : Router) (session : SessionId) (name : String) (allowedIps : List IpNet) :
    Router :=
  let r := unregister r session
  rebuildTable
    { r with
      peers := AList.insert session
        { name := name
          allowedIps := allowedIps
          linked := receivers r.links r.peers (fun _ => false) name
          macs := ∅ }
        (HashMap.mapVal
          (fun _ other =>
            if r.links.linked name other.name then
              { other with linked := insert session other.linked }
            else other)
          r.peers) }

def contains (r : Router) (session : SessionId) : Bool :=
  decide (session ∈ r.peers)

/-- `Router::owner`. -/
def owner (r : Router) (address : IpAddr) : Option SessionId :=
  (r.table.find? fun route => route.1.contains address).map Prod.snd

/-- `Router::route_ip`. -/
def routeIp (r : Router) (sender : SessionId) (packet : List UInt8) : Verdict :=
  match r.peers.lookup sender with
  | none => .drop .unknownSession
  | some peer =>
    match packetSource packet, packetDestination packet with
    | some source, some destination =>
      if !peer.sourceAllowed source then .drop .sourceNotAllowed
      else
        match r.owner destination with
        | none => .forward .onlyLocal
        | some target =>
          if target = sender then .drop .hairpin
          else if target ∈ peer.linked then .forward (.toPeer target)
          else .drop .noLink
    | _, _ => .drop .malformed

/-- `Router::route_frame`: the sender owns `mac`, or the frame is dropped. -/
def learnMac (r : Router) (sender : SessionId) (peer : PeerEntry) (mac : Mac) :
    Except DropReason Router :=
  match r.macs.lookup mac with
  | some owner => if owner ≠ sender then .error .macConflict else .ok r
  | none =>
    if maxMacsPerPeer ≤ peer.macs.card then .error .tooManyMacs
    else
      .ok
        { r with
          peers := HashMap.modify sender (fun p => { p with macs := insert mac p.macs }) r.peers
          macs := AList.insert mac sender r.macs }

/-- The receivers in `Router::route_frame`, after all checks. -/
def frameVerdict (r : Router) (sender : SessionId) (linked : Finset SessionId) (dstMac : Mac) :
    Verdict :=
  if isBroadcastOrMulticastMac dstMac then
    .forward
      { toLocal := true
        peers := r.peers.keys.filter fun id => decide (id ≠ sender) && decide (id ∈ linked) }
  else
    match r.macs.lookup dstMac with
    | some target =>
      if target = sender then .drop .hairpin
      else if target ∈ linked then .forward (.toPeer target)
      else .drop .noLink
    | none => .forward .onlyLocal

/-- `Router::route_frame`. -/
def routeFrame (r : Router) (sender : SessionId) (frame : List UInt8) : Verdict × Router :=
  match r.peers.lookup sender with
  | none => (.drop .unknownSession, r)
  | some peer =>
    match ethernetDstMac frame, ethernetSrcMac frame, ethertype frame with
    | some dstMac, some srcMac, some kind =>
      if isBroadcastOrMulticastMac srcMac then (.drop .invalidSourceMac, r)
      else if ¬ (kind = ethertypeIpv4 ∨ kind = ethertypeIpv6 ∨ kind = ethertypeArp) then
        (.drop .unsupportedEthertype, r)
      else
        match ethernetPayloadIp frame false with
        | none => (.drop .malformed, r)
        | some sourceIp =>
          if !peer.sourceAllowed sourceIp then (.drop .sourceNotAllowed, r)
          else
            match learnMac r sender peer srcMac with
            | .error reason => (.drop reason, r)
            | .ok r => (frameVerdict r sender peer.linked dstMac, r)
    | _, _, _ => (.drop .malformed, r)

/-- `Router::route_from_local_ip`. -/
def routeFromLocalIp (r : Router) (packet : List UInt8) : Option SessionId :=
  (packetDestination packet).bind r.owner

/-- `Router::route_from_local_frame`. -/
def routeFromLocalFrame (r : Router) (frame : List UInt8) : List SessionId :=
  match ethernetDstMac frame with
  | none => []
  | some dstMac =>
    if isBroadcastOrMulticastMac dstMac then r.peers.keys
    else
      match r.macs.lookup dstMac with
      | some target => [target]
      | none =>
        match (ethernetPayloadIp frame true).bind r.owner with
        | some target => [target]
        | none => r.peers.keys

@[simp] lemma rebuildTable_peers (r : Router) : (rebuildTable r).peers = r.peers :=
  rfl

@[simp] lemma rebuildTable_links (r : Router) : (rebuildTable r).links = r.links :=
  rfl

lemma mem_receivers {links : Links} {peers : HashMap SessionId PeerEntry}
    {skip : SessionId → Bool} {name : String} {id : SessionId} :
    id ∈ receivers links peers skip name ↔ ∃ other, peers.lookup id = some other ∧ skip id = false ∧
        links.linked name other.name = true := by
  simp only [receivers, List.mem_toFinset, List.mem_map, List.mem_filter, Prod.exists,
    mem_toPairs, Bool.and_eq_true, Bool.not_eq_true']
  refine ⟨?_, ?_⟩
  · intro h
    obtain ⟨id', other, ⟨found, skipped, link⟩, rfl⟩ := h
    exact ⟨other, found, skipped, link⟩
  · intro h
    obtain ⟨other, found, skipped, link⟩ := h
    exact ⟨id, other, ⟨found, skipped, link⟩, rfl⟩

/-- No receiver set keeps a session that left the router. -/
def LinkedRegistered (r : Router) : Prop :=
  ∀ id peer, r.peers.lookup id = some peer → ∀ other ∈ peer.linked, other ∈ r.peers

@[simp] lemma unregister_links (r : Router) (session : SessionId) :
    (unregister r session).links = r.links := by
  unfold unregister
  split
  · rfl
  · rfl

variable {r : Router} {session id : SessionId}

/-- What `unregister` does to the peers, registered or not. -/
lemma lookup_unregister (inv : LinkedRegistered r) (session id : SessionId) :
    (unregister r session).peers.lookup id = if id = session then none
      else (r.peers.lookup id).map fun p => { p with linked := p.linked.erase session } := by
  unfold unregister
  split
  · next gone =>
    by_cases eq : id = session
    · rw [if_pos eq, eq, gone]
    · rw [if_neg eq]
      cases found : r.peers.lookup id with
      | none => rfl
      | some peer =>
        have stays : peer.linked.erase session = peer.linked := by
          apply Finset.erase_eq_of_notMem
          intro mem
          obtain ⟨p, hp⟩ := mem_iff_lookup.1 (inv id peer found session mem)
          rw [gone] at hp
          cases hp
        rw [Option.map_some, stays]
  · rw [rebuildTable_peers, lookup_mapVal, lookup_erase_eq]
    split
    · rfl
    · rfl

lemma lookup_register_self (r : Router) (session : SessionId) (name : String)
    (allowedIps : List IpNet) : (register r session name allowedIps).peers.lookup session = some
        { name := name
          allowedIps := allowedIps
          linked := receivers r.links (unregister r session).peers (fun _ => false) name
          macs := ∅ } := by
  simp [register, AList.lookup_insert]

/-- The new session is another's receiver iff the edge *from* the new name is configured. -/
lemma lookup_register_other (inv : LinkedRegistered r) (ne : id ≠ session) (name : String)
    (allowedIps : List IpNet) :
    (register r session name allowedIps).peers.lookup id = (r.peers.lookup id).map fun other =>
        if r.links.linked name other.name then
          { other with linked := insert session (other.linked.erase session) }
        else { other with linked := other.linked.erase session } := by
  simp only [register, rebuildTable_peers, AList.lookup_insert_ne ne, lookup_mapVal,
    lookup_unregister inv, if_neg ne, Option.map_map, unregister_links]
  rfl

lemma mem_unregister : id ∈ (unregister r session).peers ↔ id ≠ session ∧ id ∈ r.peers := by
  unfold unregister
  split
  · next gone =>
    refine ⟨fun mem => ⟨?_, mem⟩, fun h => h.2⟩
    intro eq
    obtain ⟨peer, found⟩ := mem_iff_lookup.1 mem
    rw [eq, gone] at found
    cases found
  · simp [AList.mem_erase]

lemma mem_register {name : String} {allowedIps : List IpNet} :
    id ∈ (register r session name allowedIps).peers ↔ id = session ∨ id ∈ r.peers := by
  simp only [register, rebuildTable_peers, AList.mem_insert, mem_mapVal, mem_unregister]
  by_cases eq : id = session
  · simp [eq]
  · simp [eq]

lemma mem_replaceLinks {links : Links} {id : SessionId} :
    id ∈ (replaceLinks r links).peers ↔ id ∈ r.peers :=
  mem_mapVal

@[simp] lemma register_links (r : Router) (session : SessionId) (name : String)
    (allowedIps : List IpNet) : (register r session name allowedIps).links = r.links := by
  simp [register]

/-- A source MAC is the sender's, or free while the sender has room. -/
inductive Learned (r : Router) (sender : SessionId) (peer : PeerEntry) (mac : Mac) : Router → Prop where
  | known : r.macs.lookup mac = some sender → Learned r sender peer mac r
  | new : r.macs.lookup mac = none → peer.macs.card < maxMacsPerPeer → Learned r sender peer mac
      { r with
        peers := HashMap.modify sender (fun p => { p with macs := insert mac p.macs }) r.peers
        macs := AList.insert mac sender r.macs }

/-- Why a frame is dropped before its source MAC is learned. -/
def checkFailures : List DropReason :=
  [.unknownSession, .malformed, .unsupportedEthertype, .invalidSourceMac, .sourceNotAllowed,
    .macConflict, .tooManyMacs]

/-- What `routeFrame` can do. -/
inductive FrameOutcome (r : Router) (sender : SessionId) (frame : List UInt8) :
    Verdict × Router → Prop where
  | dropped {reason : DropReason} : reason ∈ checkFailures →
    FrameOutcome r sender frame (.drop reason, r)
  | accepted {peer : PeerEntry} {source : IpAddr} {srcMac dstMac : Mac} {r' : Router} :
    r.peers.lookup sender = some peer → ethernetPayloadIp frame false = some source →
    peer.sourceAllowed source = true → isBroadcastOrMulticastMac srcMac = false →
    Learned r sender peer srcMac r' →
    FrameOutcome r sender frame (frameVerdict r' sender peer.linked dstMac, r')

lemma learnMac_cases (r : Router) (sender : SessionId) (peer : PeerEntry) (mac : Mac) :
    (∃ reason ∈ checkFailures, learnMac r sender peer mac = .error reason) ∨
      ∃ r', learnMac r sender peer mac = .ok r' ∧ Learned r sender peer mac r' := by
  unfold learnMac
  split
  · next owner owned =>
    split
    · exact .inl ⟨.macConflict, by decide, rfl⟩
    · next own =>
      obtain rfl := not_not.1 own
      exact .inr ⟨r, rfl, .known owned⟩
  · next free =>
    split
    · exact .inl ⟨.tooManyMacs, by decide, rfl⟩
    · next room => exact .inr ⟨_, rfl, .new free (Nat.lt_of_not_le room)⟩

lemma frameOutcome (r : Router) (sender : SessionId) (frame : List UInt8) :
    FrameOutcome r sender frame (routeFrame r sender frame) := by
  unfold routeFrame
  split
  · exact .dropped (by decide)
  · next peer found =>
    split
    · next dstMac srcMac kind _ _ _ =>
      split
      · exact .dropped (by decide)
      · next unicast =>
        split
        · exact .dropped (by decide)
        · split
          · exact .dropped (by decide)
          · next source carried =>
            split
            · exact .dropped (by decide)
            · next allowed =>
              obtain ⟨reason, mem, refused⟩ | ⟨r', learned, spec⟩ :=
                learnMac_cases r sender peer srcMac
              · rw [refused]
                exact .dropped mem
              · rw [learned]
                exact .accepted found carried (by simpa using allowed) (by simpa using unicast) spec
    · exact .dropped (by decide)

lemma lookup_routeFrame (r : Router) (sender : SessionId) (frame : List UInt8) (id : SessionId) :
    ∃ f : PeerEntry → Finset Mac, (routeFrame r sender frame).2.peers.lookup id =
      (r.peers.lookup id).map fun p => { p with macs := f p } := by
  have unchanged : r.peers.lookup id = (r.peers.lookup id).map fun p => { p with macs := p.macs } :=
    by simp
  have outcome := frameOutcome r sender frame
  generalize routeFrame r sender frame = result at outcome
  cases outcome with
  | dropped _ => exact ⟨_, unchanged⟩
  | @accepted peer source mac _ _ _ _ _ _ learned =>
    cases learned with
    | known _ => exact ⟨_, unchanged⟩
    | new _ _ =>
      rw [lookup_modify]
      by_cases eq : id = sender
      · exact ⟨fun p => insert mac p.macs, if_pos eq⟩
      · exact ⟨_, (if_neg eq).trans unchanged⟩

lemma lookup_of_routeFrame {sender id : SessionId} {frame : List UInt8} {p : PeerEntry}
    (found : (routeFrame r sender frame).2.peers.lookup id = some p) :
    ∃ q, r.peers.lookup id = some q ∧ q.name = p.name ∧ q.allowedIps = p.allowedIps ∧
      q.linked = p.linked := by
  obtain ⟨f, eq⟩ := lookup_routeFrame r sender frame id
  rw [eq, Option.map_eq_some_iff] at found
  obtain ⟨q, fq, rfl⟩ := found
  exact ⟨q, fq, rfl, rfl, rfl⟩

lemma mem_routeFrame {sender id : SessionId} {frame : List UInt8} :
    id ∈ (routeFrame r sender frame).2.peers ↔ id ∈ r.peers := by
  obtain ⟨f, eq⟩ := lookup_routeFrame r sender frame id
  simp [← AList.lookup_isSome, eq]

lemma routeFrame_links (r : Router) (sender : SessionId) (frame : List UInt8) :
    (routeFrame r sender frame).2.links = r.links := by
  have outcome := frameOutcome r sender frame
  generalize routeFrame r sender frame = result at outcome
  cases outcome with
  | dropped _ => rfl
  | accepted _ _ _ _ learned =>
    cases learned with
    | known _ => rfl
    | new _ _ => rfl

end Router
end Rvpn.Routing
