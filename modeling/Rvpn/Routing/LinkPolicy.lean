import Rvpn.Routing.Router

/-!
# The directed link policy

What the receiver sets of the router are for: a session `s` may send to another session `t` exactly
when the configured links hold the edge from the name of `s` to the name of `t` (`LinkPolicy`).
`replaceLinks` rebuilds all receiver sets; `register` updates them incrementally, and reads the edges
from the new name for both directions.
-/

namespace Rvpn.Routing
namespace Router
open HashMap

inductive Event where
  | register (session : SessionId) (name : String) (allowedIps : List IpNet)
  | unregister (session : SessionId)
  | replaceLinks (links : Links)
  | routeFrame (sender : SessionId) (frame : List UInt8)

def step (r : Router) : Event → Router
  | .register session name allowedIps => register r session name allowedIps
  | .unregister session => unregister r session
  | .replaceLinks links => replaceLinks r links
  | .routeFrame sender frame => (routeFrame r sender frame).2

/-- A session receives from another iff the links hold their edge. -/
def LinkPolicy (r : Router) : Prop :=
  ∀ s t ps pt, r.peers.lookup s = some ps → r.peers.lookup t = some pt → s ≠ t →
    (t ∈ ps.linked ↔ (ps.name, pt.name) ∈ r.links.edges)

/-- Both edges between `a` and `b` or none; none if they are equal. -/
def Mirrored (links : Links) (a b : String) : Prop :=
  (a ≠ b → ((a, b) ∈ links.edges ↔ (b, a) ∈ links.edges)) ∧ (a = b → (a, b) ∉ links.edges)

/-- The condition on a call under which it keeps the link policy. -/
def Allowed (r : Router) : Event → Prop
  | .register session name _ =>
    ∀ id other, r.peers.lookup id = some other → id ≠ session → Mirrored r.links name other.name
  | .replaceLinks links =>
    ∀ s t ps pt, r.peers.lookup s = some ps → r.peers.lookup t = some pt → s ≠ t →
      ps.name = pt.name → (ps.name, pt.name) ∉ links.edges
  | .unregister _ => True
  | .routeFrame _ _ => True

lemma linked_iff {links : Links} {a b : String} :
    links.linked a b = true ↔ a ≠ b ∧ (a, b) ∈ links.edges := by
  simp [Links.linked]

/-- The question of `register` answers both directions iff mirrored. -/
lemma mirrored_iff {links : Links} {a b : String} : Mirrored links a b ↔
      (links.linked a b = true ↔ (a, b) ∈ links.edges) ∧
        (links.linked a b = true ↔ (b, a) ∈ links.edges) := by
  rw [linked_iff, Mirrored]
  by_cases eq : a = b
  · subst eq
    simp
  · simp [eq]

variable {r : Router}

lemma register_linked (inv : LinkedRegistered r) {session id : SessionId} {other : PeerEntry}
    (found : r.peers.lookup id = some other) (ne : id ≠ session) (name : String)
    (allowedIps : List IpNet) :
    ∃ new other', (register r session name allowedIps).peers.lookup session = some new ∧
      (register r session name allowedIps).peers.lookup id = some other' ∧
      new.name = name ∧ other'.name = other.name ∧
      (id ∈ new.linked ↔ r.links.linked name other.name = true) ∧
      (session ∈ other'.linked ↔ r.links.linked name other.name = true) ∧
      ∀ x, x ≠ session → (x ∈ other'.linked ↔ x ∈ other.linked) := by
  have before : (unregister r session).peers.lookup id =
      some { other with linked := other.linked.erase session } := by
    rw [lookup_unregister inv, if_neg ne, found, Option.map_some]
  have after := lookup_register_other inv ne name allowedIps
  rw [found, Option.map_some] at after
  refine ⟨_, _, lookup_register_self r session name allowedIps, after, rfl, ?_, ?_, ?_, ?_⟩
  · split
    · rfl
    · rfl
  · simp [mem_receivers, before]
  · by_cases link : r.links.linked name other.name = true
    · simp [link]
    · simp [link]
  · intro x nx
    split
    · simp [nx]
    · simp [nx]

lemma lookup_of_register (inv : LinkedRegistered r) {session id : SessionId} {name : String}
    {allowedIps : List IpNet} {p : PeerEntry} (ne : id ≠ session)
    (found : (register r session name allowedIps).peers.lookup id = some p) :
    ∃ other, r.peers.lookup id = some other := by
  rw [lookup_register_other inv ne, Option.map_eq_some_iff] at found
  obtain ⟨other, h, _⟩ := found
  exact ⟨other, h⟩

/-- A registration keeps the policy iff the new name is mirrored with all. -/
lemma linkPolicy_register (inv : LinkedRegistered r) (pol : LinkPolicy r) (session : SessionId)
    (name : String) (allowedIps : List IpNet) : LinkPolicy (register r session name allowedIps) ↔
      Allowed r (.register session name allowedIps) := by
  refine ⟨?_, ?_⟩
  · intro h id other found ne
    obtain ⟨new, other', fs, fi, rfl, nm, toOther, toNew, _⟩ :=
      register_linked inv found ne name allowedIps
    have out := h session id new other' fs fi ne.symm
    have back := h id session other' new fi fs ne
    rw [register_links, nm] at out back
    exact mirrored_iff.2 ⟨toOther.symm.trans out, toNew.symm.trans back⟩
  · intro ok s t ps pt hs ht ne
    rw [register_links]
    by_cases es : s = session
    · subst es
      obtain ⟨other, found⟩ := lookup_of_register inv ne.symm ht
      obtain ⟨new, other', fs, fi, rfl, nm, toOther, _, _⟩ :=
        register_linked inv found ne.symm name allowedIps
      obtain rfl : new = ps := Option.some.inj (fs.symm.trans hs)
      obtain rfl : other' = pt := Option.some.inj (fi.symm.trans ht)
      rw [toOther, nm]
      exact (mirrored_iff.1 (ok t other found ne.symm)).1
    · obtain ⟨other, found⟩ := lookup_of_register inv es hs
      obtain ⟨new, other', fs, fi, rfl, nm, _, toNew, rest⟩ :=
        register_linked inv found es name allowedIps
      obtain rfl : other' = ps := Option.some.inj (fi.symm.trans hs)
      by_cases et : t = session
      · subst et
        obtain rfl : new = pt := Option.some.inj (fs.symm.trans ht)
        rw [toNew, nm]
        exact (mirrored_iff.1 (ok s other found es)).2
      · -- both sessions were there before: their entries keep names and mutual links
        obtain ⟨target, foundT⟩ := lookup_of_register inv et ht
        obtain ⟨_, target', _, ft, _, nmT, _, _, _⟩ :=
          register_linked inv foundT et new.name allowedIps
        obtain rfl : target' = pt := Option.some.inj (ft.symm.trans ht)
        rw [rest t et, nm, nmT]
        exact pol s t other target found foundT ne

lemma linkPolicy_unregister (inv : LinkedRegistered r) (pol : LinkPolicy r) (session : SessionId) :
    LinkPolicy (unregister r session) := by
  intro s t ps pt hs ht ne
  rw [lookup_unregister inv] at hs ht
  split at hs
  · cases hs
  · split at ht
    · cases ht
    · next nt =>
      obtain ⟨p, fs, rfl⟩ := Option.map_eq_some_iff.1 hs
      obtain ⟨q, ft, rfl⟩ := Option.map_eq_some_iff.1 ht
      rw [unregister_links, Finset.mem_erase, and_iff_right nt]
      exact pol s t p q fs ft ne

lemma linkPolicy_replaceLinks (r : Router) (links : Links) :
    LinkPolicy (replaceLinks r links) ↔ Allowed r (.replaceLinks links) := by
  have entry : ∀ s p, r.peers.lookup s = some p → (replaceLinks r links).peers.lookup s =
        some { p with linked := receivers links r.peers (· == s) p.name } := by
    intro s p found
    rw [replaceLinks, lookup_mapVal, found, Option.map_some]
  have mem : ∀ s t ps pt, r.peers.lookup t = some pt → s ≠ t →
      (t ∈ receivers links r.peers (· == s) ps ↔ ps ≠ pt.name ∧ (ps, pt.name) ∈ links.edges) := by
    intro s t ps pt ft ne
    have ne' : (t == s) = false := beq_eq_false_iff_ne.2 ne.symm
    simp [mem_receivers, ft, ne', linked_iff]
  refine ⟨?_, ?_⟩
  · intro h s t ps pt fs ft ne same edge
    have out := (h s t _ _ (entry s ps fs) (entry t pt ft) ne).2 edge
    exact ((mem s t ps.name pt ft ne).1 out).1 same
  · intro ok s t ps pt hs ht ne
    rw [replaceLinks, lookup_mapVal, Option.map_eq_some_iff] at hs ht
    obtain ⟨p, fs, rfl⟩ := hs
    obtain ⟨q, ft, rfl⟩ := ht
    refine (mem s t p.name q ft ne).trans ⟨fun h => h.2, fun edge => ⟨?_, edge⟩⟩
    exact fun same => ok s t p q fs ft ne same edge

lemma linkPolicy_routeFrame (pol : LinkPolicy r) (sender : SessionId) (frame : List UInt8) :
    LinkPolicy (routeFrame r sender frame).2 := by
  intro s t ps pt hs ht ne
  obtain ⟨p, fs, np, _, lp⟩ := lookup_of_routeFrame hs
  obtain ⟨q, ft, nq, _, _⟩ := lookup_of_routeFrame ht
  rw [routeFrame_links, ← np, ← nq, ← lp]
  exact pol s t p q fs ft ne

/-- No call leaves an unregistered session in a receiver set. -/
lemma linkedRegistered_step (inv : LinkedRegistered r) (e : Event) : LinkedRegistered (step r e) := by
  cases e with
  | register session name allowedIps =>
    intro id peer found other mem
    refine mem_register.2 ?_
    by_cases eq : other = session
    · exact .inl eq
    · refine .inr ?_
      by_cases ei : id = session
      · -- the receivers of the new session are entries that `unregister` left
        subst ei
        simp only [step, lookup_register_self, Option.some.injEq] at found
        subst found
        obtain ⟨q, fq, _⟩ := mem_receivers.1 mem
        rw [lookup_unregister inv, if_neg eq, Option.map_eq_some_iff] at fq
        obtain ⟨q, fq, _⟩ := fq
        exact mem_iff_lookup.2 ⟨q, fq⟩
      · obtain ⟨p, fp⟩ := lookup_of_register inv ei found
        obtain ⟨_, p', _, fi, _, _, _, _, rest⟩ := register_linked inv fp ei name allowedIps
        obtain rfl : p' = peer := Option.some.inj (fi.symm.trans found)
        exact inv id p fp other ((rest other eq).1 mem)
  | unregister session =>
    intro id peer found other mem
    simp only [step, lookup_unregister inv] at found
    split at found
    · cases found
    · obtain ⟨p, fp, rfl⟩ := Option.map_eq_some_iff.1 found
      obtain ⟨ne, mem⟩ := Finset.mem_erase.1 mem
      obtain ⟨q, fq⟩ := mem_iff_lookup.1 (inv id p fp other mem)
      apply mem_iff_lookup.2
      exact ⟨_, by rw [step, lookup_unregister inv, if_neg ne, fq, Option.map_some]⟩
  | replaceLinks links =>
    intro id peer found other mem
    simp only [step, replaceLinks, lookup_mapVal, Option.map_eq_some_iff] at found
    obtain ⟨p, _, rfl⟩ := found
    obtain ⟨q, fq, _⟩ := mem_receivers.1 mem
    exact mem_mapVal.2 (mem_iff_lookup.2 ⟨q, fq⟩)
  | routeFrame sender frame =>
    intro id peer found other mem
    obtain ⟨p, fp, _, _, same⟩ := lookup_of_routeFrame found
    rw [← same] at mem
    exact mem_routeFrame.2 (inv id p fp other mem)

lemma linkPolicy_step (inv : LinkedRegistered r) (pol : LinkPolicy r) (e : Event) :
    LinkPolicy (step r e) ↔ Allowed r e := by
  cases e with
  | register session name allowedIps => exact linkPolicy_register inv pol session name allowedIps
  | unregister session => exact iff_of_true (linkPolicy_unregister inv pol session) trivial
  | replaceLinks links => exact linkPolicy_replaceLinks r links
  | routeFrame sender frame => exact iff_of_true (linkPolicy_routeFrame pol sender frame) trivial

/-- A run keeps the link policy iff its registrations and link changes are allowed. -/
theorem linkPolicy_iff (links : Links) (es : List Event) :
    Always step LinkPolicy (new links) es ↔ EachStep step Allowed (new links) es := by
  apply always_iff_eachStep (I := LinkedRegistered)
  · intro id peer found
    cases found
  · intro s t ps pt found
    cases found
  · exact fun r e inv => linkedRegistered_step inv e
  · exact fun r e inv pol => linkPolicy_step inv pol e

/-- Laptop may send to phone: `register` asks for the other edge only. -/
theorem linkPolicy_broken_by_registration_order :
    ¬ LinkPolicy (run step (new (Links.fromDirectedPairs [("laptop", "phone")]))
      [.register ⟨Bytes.ofList 16 [1]⟩ "laptop" [], .register ⟨Bytes.ofList 16 [2]⟩ "phone" []]) := by
  intro pol
  have edge := (pol ⟨Bytes.ofList 16 [1]⟩ ⟨Bytes.ofList 16 [2]⟩
    { name := "laptop", allowedIps := [], linked := ∅, macs := ∅ }
    { name := "phone", allowedIps := [], linked := ∅, macs := ∅ }
    (by decide) (by decide) (by decide)).2 (by decide)
  exact absurd edge (by decide)

/-- Links built from groups are mirrored on all names. -/
lemma mirrored_fromGroups (groups : List (List String)) (a b : String) :
    Mirrored (Links.fromGroups groups) a b := by
  have both : ∀ a b, (a, b) ∈ (Links.fromGroups groups).edges →
      a ≠ b ∧ (b, a) ∈ (Links.fromGroups groups).edges := by
    intro a b mem
    simp only [Links.fromGroups, List.mem_toFinset, List.mem_flatMap] at mem ⊢
    obtain ⟨group, hg, tail, ht, mem⟩ := mem
    cases tail with
    | nil => cases mem
    | cons x rest =>
      obtain ⟨y, hy, mem⟩ := List.mem_flatMap.1 mem
      by_cases ne : x = y
      · rw [if_neg (not_not.2 ne)] at mem
        cases mem
      · rw [if_pos ne] at mem
        have swapped : a ≠ b ∧ (b, a) ∈ [(x, y), (y, x)] := by
          simp only [List.mem_cons, Prod.mk.injEq, List.not_mem_nil, or_false] at mem ⊢
          obtain ⟨rfl, rfl⟩ | ⟨rfl, rfl⟩ := mem
          · exact ⟨ne, .inr ⟨rfl, rfl⟩⟩
          · exact ⟨fun eq => ne eq.symm, .inl ⟨rfl, rfl⟩⟩
        refine ⟨swapped.1, group, hg, x :: rest, ht, List.mem_flatMap.2 ⟨y, hy, ?_⟩⟩
        rw [if_pos ne]
        exact swapped.2
  refine ⟨fun _ => ⟨fun h => (both a b h).2, fun h => (both b a h).2⟩, ?_⟩
  intro eq mem
  exact (both a b mem).1 eq

lemma step_links (r : Router) (e : Event) : (step r e).links = match e with
      | .replaceLinks links => links
      | _ => r.links := by
  cases e with
  | register session name allowedIps => exact register_links r session name allowedIps
  | unregister session => exact unregister_links r session
  | replaceLinks links => rfl
  | routeFrame sender frame => exact routeFrame_links r sender frame

/-- A server whose links are groups only keeps the link policy in every run. -/
theorem linkPolicy_of_groups {groups : List (List String)} {es : List Event}
    (grouped : ∀ links, .replaceLinks links ∈ es → ∃ gs, links = Links.fromGroups gs) :
    Always step LinkPolicy (new (Links.fromGroups groups)) es := by
  have keep : ∀ r e, ((∃ gs, r.links = Links.fromGroups gs) ∧ LinkedRegistered r ∧ LinkPolicy r) →
      (∀ links, e = .replaceLinks links → ∃ gs, links = Links.fromGroups gs) →
      ((∃ gs, (step r e).links = Links.fromGroups gs) ∧ LinkedRegistered (step r e) ∧
        LinkPolicy (step r e)) := by
    intro r e inv fromGroup
    obtain ⟨⟨gs, eq⟩, inv, pol⟩ := inv
    refine ⟨?_, linkedRegistered_step inv e, (linkPolicy_step inv pol e).2 ?_⟩
    · cases e with
      | replaceLinks links => exact fromGroup links rfl
      | _ => exact ⟨gs, (step_links r _).trans eq⟩
    · cases e with
      | register session name allowedIps =>
        intro id other _ _
        rw [eq]
        exact mirrored_fromGroups gs name other.name
      | replaceLinks links =>
        intro s t ps pt _ _ _ same
        obtain ⟨gs', rfl⟩ := fromGroup links rfl
        exact (mirrored_fromGroups gs' ps.name pt.name).2 same
      | _ => trivial
  have start : LinkPolicy (new (Links.fromGroups groups)) := by
    intro s t ps pt found
    cases found
  have start' : LinkedRegistered (new (Links.fromGroups groups)) := by
    intro id peer found
    cases found
  have every : EachStep step
      (fun _ e => ∀ links, e = .replaceLinks links → ∃ gs, links = Links.fromGroups gs)
      (new (Links.fromGroups groups)) es := by
    intro pre e post eq links el
    exact grouped links (by rw [eq, el]; simp)
  have all := always_of_eachStep ⟨⟨groups, rfl⟩, start', start⟩ keep every
  exact fun pre post eq => (all pre post eq).2.2

/-- Two sessions of one group, the order of which broke the directed policy. -/
theorem linkPolicy_of_one_group :
    Always step LinkPolicy (new (Links.fromGroups [["laptop", "phone"]]))
      [.register ⟨Bytes.ofList 16 [1]⟩ "laptop" [], .register ⟨Bytes.ofList 16 [2]⟩ "phone" []] :=
  linkPolicy_of_groups (by simp)

end Router
end Rvpn.Routing
