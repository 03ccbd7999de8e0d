import Rvpn.Routing.Consistency

/-!
# Longest-prefix routing

The owner of an address is found by a linear search in a table that is built from a `HashMap` and
sorted by prefix length and session id. `Reaches` lets the maps change their iteration order at any
time, and `registered` says what a list of calls registers.
-/

namespace Rvpn.Routing
namespace Router
variable {r r' : Router} {links : Links} {es : List Event}

def networks (r : Router) (id : SessionId) : Option (List IpNet) :=
  (r.peers.lookup id).map PeerEntry.allowedIps

def registers (networks : SessionId → Option (List IpNet)) : Event → SessionId → Option (List IpNet)
  | .register session _ allowedIps => Function.update networks session (some allowedIps)
  | .unregister session => Function.update networks session none
  | .replaceLinks _ => networks
  | .routeFrame _ _ => networks

def registered (es : List Event) : SessionId → Option (List IpNet) :=
  es.foldl registers fun _ => none

/-- The same router with another iteration order of its maps. -/
structure Reordered (r r' : Router) : Prop where
  links : r'.links = r.links
  peers : r'.peers.entries.Perm r.peers.entries
  table : r'.table = r.table
  macs : r'.macs.entries.Perm r.macs.entries

/-- The routers that calls can lead to, in any iteration order. -/
inductive Reaches (links : Links) : List Event → Router → Prop
  | new : Reaches links [] (new links)
  | call {es : List Event} {r : Router} (e : Event) (reached : Reaches links es r) :
      Reaches links (es ++ [e]) (step r e)
  | reorder {es : List Event} {r r' : Router} (reached : Reaches links es r)
      (order : Reordered r r') : Reaches links es r'
  | rebuild {es : List Event} {r r' : Router} (reached : Reaches links es r)
      (order : Reordered r r') : Reaches links es (rebuildTable r')

/-- A network of the session has the address; others are shorter, or as long with a larger id. -/
def LongestPrefix (networks : SessionId → Option (List IpNet)) (address : IpAddr) (id : SessionId) :
    Prop :=
  ∃ nets net, networks id = some nets ∧ net ∈ nets ∧ net.contains address = true ∧
    ∀ id' nets' net', networks id' = some nets' → net' ∈ nets' → net'.contains address = true →
      net'.prefixLength < net.prefixLength ∨
        (net'.prefixLength = net.prefixLength ∧ id.bytes.toList ≤ id'.bytes.toList)

/-- The table holds the registered networks, the best ones first. -/
structure Tabled (r : Router) : Prop where
  routes : ∀ net id, (net, id) ∈ r.table ↔ ∃ nets, r.networks id = some nets ∧ net ∈ nets
  sorted : r.table.Pairwise tableOrder

instance : Std.Total tableOrder where
  total a b := by
    rcases Nat.lt_trichotomy a.1.prefixLength b.1.prefixLength with shorter | same | longer
    · exact .inr (.inl shorter)
    · rcases List.le_total a.2.bytes.toList b.2.bytes.toList with le | le
      · exact .inl (.inr ⟨same.symm, le⟩)
      · exact .inr (.inr ⟨same, le⟩)
    · exact .inl (.inl longer)

instance : IsTrans (IpNet × SessionId) tableOrder where
  trans a b c ab bc := by
    rcases ab with longer | ⟨same, le⟩
    · rcases bc with longer' | ⟨same', _⟩
      · exact .inl (longer'.trans longer)
      · exact .inl (same' ▸ longer)
    · rcases bc with longer' | ⟨same', le'⟩
      · exact .inl (same ▸ longer')
      · exact .inr ⟨same'.trans same, List.le_trans le le'⟩

lemma exists_networks {net : IpNet} {id : SessionId} :
    (∃ nets, r.networks id = some nets ∧ net ∈ nets) ↔ (net, id) ∈ routes r.peers := by
  rw [mem_routes]
  unfold networks
  refine ⟨?_, ?_⟩
  · intro h
    obtain ⟨nets, listed, mem⟩ := h
    obtain ⟨peer, found, rfl⟩ := Option.map_eq_some_iff.1 listed
    exact ⟨peer, found, mem⟩
  · intro h
    obtain ⟨peer, found, mem⟩ := h
    exact ⟨peer.allowedIps, Option.map_eq_some_iff.2 ⟨peer, found, rfl⟩, mem⟩

lemma tabled_rebuildTable (r : Router) : (rebuildTable r).Tabled := by
  refine ⟨?_, List.pairwise_insertionSort tableOrder _⟩
  intro net id
  have table := table_rebuildTable r
  rw [exists_networks, rebuildTable_peers, ← table, Multiset.mem_coe]

lemma Tabled.of_same (h : r.Tabled) (table : r'.table = r.table)
    (networks : ∀ id, r'.networks id = r.networks id) : r'.Tabled := by
  refine ⟨?_, by rw [table]; exact h.sorted⟩
  intro net id
  rw [table, networks]
  exact h.routes net id

/-!
What each call does to the networks.
-/

lemma networks_unregister (r : Router) (session : SessionId) :
    (unregister r session).networks = Function.update r.networks session none := by
  funext id
  unfold networks unregister
  split
  · next gone =>
    by_cases own : id = session
    · rw [own, Function.update_self, gone]
      rfl
    · rw [Function.update_of_ne own]
  · rw [rebuildTable_peers, HashMap.lookup_mapVal, HashMap.lookup_erase_eq]
    by_cases own : id = session
    · rw [if_pos own, own, Function.update_self]
      rfl
    · rw [if_neg own, Function.update_of_ne own, Option.map_map]
      rfl

lemma networks_register (r : Router) (session : SessionId) (name : String)
    (allowedIps : List IpNet) : (register r session name allowedIps).networks =
      Function.update r.networks session (some allowedIps) := by
  funext id
  by_cases own : id = session
  · rw [own, Function.update_self, networks, lookup_register_self]
    rfl
  · have others : (register r session name allowedIps).networks id =
        (unregister r session).networks id := by
      simp only [networks, register, rebuildTable_peers, AList.lookup_insert_ne own,
        HashMap.lookup_mapVal, Option.map_map]
      congr 1
      funext other
      show (if _ then _ else other).allowedIps = other.allowedIps
      split
      · rfl
      · rfl
    rw [others, networks_unregister, Function.update_of_ne own, Function.update_of_ne own]

lemma networks_replaceLinks (r : Router) (links : Links) :
    (replaceLinks r links).networks = r.networks := by
  funext id
  rw [networks, replaceLinks, HashMap.lookup_mapVal, Option.map_map]
  rfl

lemma networks_routeFrame (r : Router) (sender : SessionId) (frame : List UInt8) :
    (routeFrame r sender frame).2.networks = r.networks := by
  funext id
  obtain ⟨f, eq⟩ := lookup_routeFrame r sender frame id
  rw [networks, eq, Option.map_map]
  rfl

lemma table_routeFrame (r : Router) (sender : SessionId) (frame : List UInt8) :
    (routeFrame r sender frame).2.table = r.table := by
  have outcome := frameOutcome r sender frame
  generalize routeFrame r sender frame = result at outcome
  cases outcome with
  | dropped _ => rfl
  | accepted _ _ _ _ learned =>
    cases learned with
    | known _ => rfl
    | new _ _ => rfl

lemma networks_step (r : Router) (e : Event) : (step r e).networks = registers r.networks e := by
  cases e with
  | register session name allowedIps => exact networks_register r session name allowedIps
  | unregister session => exact networks_unregister r session
  | replaceLinks links => exact networks_replaceLinks r links
  | routeFrame sender frame => exact networks_routeFrame r sender frame

lemma Tabled.step (h : r.Tabled) (e : Event) : (step r e).Tabled := by
  cases e with
  | register session name allowedIps => exact tabled_rebuildTable _
  | unregister session =>
    show (unregister r session).Tabled
    unfold unregister
    split
    · exact h
    · exact tabled_rebuildTable _
  | replaceLinks links => exact h.of_same rfl (congrFun (networks_replaceLinks r links))
  | routeFrame sender frame =>
    exact h.of_same (table_routeFrame r sender frame) (congrFun (networks_routeFrame r sender frame))

lemma Reordered.networks (h : Reordered r r') : r'.networks = r.networks := by
  funext id
  rw [Router.networks, AList.perm_lookup h.peers]
  rfl

lemma Reaches.tabled (h : Reaches links es r) : r.Tabled ∧ r.networks = registered es := by
  induction h with
  | new =>
    refine ⟨⟨?_, List.Pairwise.nil⟩, rfl⟩
    intro net id
    refine ⟨fun mem => absurd mem List.not_mem_nil, ?_⟩
    intro h
    obtain ⟨nets, found, _⟩ := h
    cases found
  | call e reached ih =>
    refine ⟨ih.1.step e, ?_⟩
    rw [networks_step, ih.2, registered, registered, List.foldl_append]
    rfl
  | reorder reached order ih =>
    exact ⟨ih.1.of_same order.table (congrFun order.networks), order.networks.trans ih.2⟩
  | rebuild reached order ih => exact ⟨tabled_rebuildTable _, order.networks.trans ih.2⟩

lemma reaches_run (links : Links) (es : List Event) : Reaches links es (run step (new links) es) := by
  induction es using List.reverseRecOn with
  | nil => exact .new
  | append_singleton es e ih =>
    rw [run_append]
    exact .call e ih

/-!
The search.
-/

variable {address : IpAddr}

lemma longestPrefix_of_owner (h : r.Tabled) {id : SessionId} (owner : r.owner address = some id) :
    LongestPrefix r.networks address id := by
  obtain ⟨⟨net, _⟩, first, rfl⟩ := Option.map_eq_some_iff.1 owner
  have mem := List.mem_of_find?_eq_some first
  obtain ⟨contains, before, after, split, misses⟩ := List.find?_eq_some_iff_append.1 first
  obtain ⟨nets, found, listed⟩ := (h.routes net _).1 mem
  refine ⟨nets, net, found, listed, contains, ?_⟩
  intro id' nets' net' found' listed' contains'
  have mem' : (net', id') ∈ r.table := (h.routes net' id').2 ⟨nets', found', listed'⟩
  have sorted := h.sorted
  rw [split] at mem' sorted
  rcases List.mem_append.1 mem' with early | late
  · -- what stands before the first match does not contain the address
    have misses := misses _ early
    rw [contains'] at misses
    cases misses
  · rcases List.mem_cons.1 late with same | late
    · cases same
      exact .inr ⟨rfl, List.le_refl _⟩
    · exact (List.pairwise_cons.1 (List.pairwise_append.1 sorted).2.1).1 _ late

lemma owner_eq_none_iff (h : r.Tabled) : r.owner address = none ↔
      ∀ id nets, r.networks id = some nets → ∀ net ∈ nets, net.contains address = false := by
  unfold owner
  rw [Option.map_eq_none_iff, List.find?_eq_none]
  refine ⟨?_, ?_⟩
  · intro misses id nets found net listed
    have misses := misses (net, id) ((h.routes net id).2 ⟨nets, found, listed⟩)
    rw [Bool.not_eq_true] at misses
    exact misses
  · rintro misses ⟨net, id⟩ mem
    obtain ⟨nets, found, listed⟩ := (h.routes net id).1 mem
    rw [Bool.not_eq_true]
    exact misses id nets found net listed

lemma LongestPrefix.unique {networks : SessionId → Option (List IpNet)} {id id' : SessionId}
    (h : LongestPrefix networks address id) (h' : LongestPrefix networks address id') : id = id' := by
  obtain ⟨nets, net, found, listed, contains, best⟩ := h
  obtain ⟨nets', net', found', listed', contains', best'⟩ := h'
  have first := best id' nets' net' found' listed' contains'
  have second := best' id nets net found listed contains
  have le : id.bytes.toList ≤ id'.bytes.toList := by
    rcases first with shorter | ⟨_, le⟩
    · omega
    · exact le
  have ge : id'.bytes.toList ≤ id.bytes.toList := by
    rcases second with shorter | ⟨_, ge⟩
    · omega
    · exact ge
  exact SessionId.ext (Bytes.toList_inj.1 (List.le_antisymm le ge))

lemma owner_eq_some_iff (h : r.Tabled) {id : SessionId} :
    r.owner address = some id ↔ LongestPrefix r.networks address id := by
  refine ⟨longestPrefix_of_owner h, ?_⟩
  intro best
  cases owner : r.owner address with
  | none =>
    obtain ⟨nets, net, found, listed, contains, _⟩ := best
    have misses := (owner_eq_none_iff h).1 owner id nets found net listed
    rw [contains] at misses
    cases misses
  | some id' => rw [(longestPrefix_of_owner h owner).unique best]

/-- The owner of an address has the longest registered prefix that contains it, and among those the
least id, whatever calls led there and however maps are iterated. -/
theorem owner_longest_prefix (links : Links) (es : List Event) (r : Router)
    (reached : Reaches links es r) (address : IpAddr) : (r.owner address = none ↔
        ∀ id nets, registered es id = some nets → ∀ net ∈ nets, net.contains address = false) ∧
      (∀ id, r.owner address = some id ↔ LongestPrefix (registered es) address id) ∧
      ∀ links' es' r', Reaches links' es' r' → registered es' = registered es →
        r'.owner address = r.owner address := by
  obtain ⟨tabled, networks⟩ := reached.tabled
  rw [← networks]
  refine ⟨owner_eq_none_iff tabled, fun id => owner_eq_some_iff tabled, ?_⟩
  intro links' es' r' reached' same
  obtain ⟨tabled', networks'⟩ := reached'.tabled
  rw [same] at networks'
  apply Option.ext
  intro id
  rw [owner_eq_some_iff tabled, owner_eq_some_iff tabled', networks']

def nestedCalls : List Event :=
  [.register ⟨Bytes.ofList 16 [1]⟩ "a" [.v4 (Bytes.ofList 4 [10, 0, 0, 0]) ⟨8, by decide⟩],
    .register ⟨Bytes.ofList 16 [2]⟩ "b" [],
    .register ⟨Bytes.ofList 16 [2]⟩ "b"
      [.v4 (Bytes.ofList 4 [10, 1, 0, 0]) ⟨16, by decide⟩, .v6 (Bytes.zero 16) ⟨0, by decide⟩]]

theorem owner_longest_prefix_nested : let r := run step (new (.fromGroups [])) nestedCalls
    let address := IpAddr.v4 (Bytes.ofList 4 [10, 1, 2, 3])
    Reaches (.fromGroups []) nestedCalls r ∧ r.owner address = some ⟨Bytes.ofList 16 [2]⟩ ∧
      (r.owner address = none ↔ ∀ id nets, registered nestedCalls id = some nets →
        ∀ net ∈ nets, net.contains address = false) ∧
      (∀ id, r.owner address = some id ↔ LongestPrefix (registered nestedCalls) address id) ∧
      ∀ links' es' r', Reaches links' es' r' → registered es' = registered nestedCalls →
        r'.owner address = r.owner address := by
  refine ⟨reaches_run _ _, by decide +kernel, ?_⟩
  exact owner_longest_prefix _ nestedCalls _ (reaches_run _ _) _

end Router
end Rvpn.Routing
