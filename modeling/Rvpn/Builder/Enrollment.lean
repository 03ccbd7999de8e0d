import Rvpn.Builder.Revocation

/-!
# Enrollment of peers

Model of `_interface_addresses`, `_used_networks`, `_next_address` and of what `enroll_peer` does with
them in `builder/peers.py`. Python's `ipaddress` is a parameter. The configuration is read as TOML, and the
override of the new peer is written with the line editor. The checks of the other arguments and of the seed
file come before and do not depend on the addresses.
-/

namespace Rvpn.Builder
open Toml

/-- An address of `ipaddress`, by its number. -/
structure Address where
  v6 : Bool
  value : ℕ
  deriving DecidableEq

/-- A network of `ipaddress`: first address and bits behind the prefix. -/
structure Network where
  v6 : Bool
  base : ℕ
  hostBits : ℕ
  deriving DecidableEq

structure Interface where
  ip : Address
  network : Network

namespace Network

def size (n : Network) : ℕ :=
  Nat.pow 2 n.hostBits

/-- `candidate.version == network.version and candidate in network`. -/
def contains (n : Network) (a : Address) : Bool :=
  a.v6 == n.v6 && decide (n.base ≤ a.value ∧ a.value < n.base + n.size)

/-- `hosts()`: without the first and the IPv4 last address, if there are more than two. -/
def hosts (n : Network) : List Address :=
  let values :=
    if n.hostBits ≤ 1 then List.range' n.base n.size
    else if n.v6 then List.range' (n.base + 1) (n.size - 1)
    else List.range' (n.base + 1) (n.size - 2)
  values.map (Address.mk n.v6)

end Network

/-- `ip_interface`, `ip_network` with `strict=False`, and `str`. -/
structure Ipaddress where
  interface : Text → Except String Interface
  network : Text → Except String Network
  text : Address → Text
  networkText : Network → String

variable (py : Ipaddress)

/-- The prefix of one address, as `enroll_peer` writes it. -/
def Ipaddress.hostPrefix (a : Address) : Text :=
  py.text a ++ (if a.v6 then "/128" else "/32").toList

section Reading
variable {σ : Type} (doc : List (Entry σ))

/-- `address`, unless it is empty, and `addresses` of `[interface]`. -/
def interfaceEntries : List Text :=
  (stringAt doc (direct ["interface".toList, "address".toList])).toList.filter (· != []) ++
    (stringsAt doc (direct ["interface".toList, "addresses".toList])).getD []

/-- `_interface_addresses`. -/
def interfaceAddresses : Except String (List Interface) := do
  let parsed ← (interfaceEntries doc).mapM py.interface
  match parsed.find? fun i => !i.ip.v6 with
  | none => .error "server interface must have an IPv4 address to enroll a peer"
  | some ipv4 => .ok (ipv4 :: (parsed.find? fun i => i.ip.v6).toList)

/-- The prefixes of `peer_overrides`. -/
def overridePrefixes : List Text :=
  (keysAt doc (direct [authorityName, overridesName])).dedup.flatMap fun name =>
    (stringsAt doc (direct [authorityName, overridesName, name])).getD []

/-- The prefixes of `[[peers]]`. -/
def pinnedPrefixes : List Text :=
  match lookup doc (direct ["peers".toList]) with
  | some (.array n) => (List.range n).flatMap fun i =>
    (stringsAt doc [.key "peers".toList, .index i, .key "allowed_ips".toList]).getD []
  | _ => []

/-- `_used_networks`. -/
def usedNetworks (own : List Interface) : Except String (List Network) :=
  (overridePrefixes doc ++ own.map fun i => py.text i.ip).mapM py.network

/-- `_next_address`. -/
def nextAddress (used : List Network) (i : Interface) : Except String Address :=
  match i.network.hosts.find? fun a => a != i.ip && !used.any fun n => n.contains a with
  | some a => .ok a
  | none => .error ("no free addresses remain in tunnel subnet " ++ py.networkText i.network)

/-- The addresses that `enroll_peer` gives. -/
def assignAddresses : Except String (List Address) := do
  let own ← interfaceAddresses py doc
  let used ← usedNetworks py doc own
  own.mapM (nextAddress py used)

/-- `enroll_peer`: the new server configuration and the addresses given. -/
def enrollPeer (scalar : List Char → Option σ) (depth : ℕ) (text : Text) (publicKey : Text) :
    Except String (Text × List Address) :=
  match parse scalar depth text with
  | none => .error "TOMLDecodeError"
  | some doc => do
    let revoked ← certificateAuthority doc
    let given ← assignAddresses py doc
    if publicKey ∈ keysAt doc (direct [authorityName, overridesName]) ∨ publicKey ∈ revoked then
      .error "generated identity already exists in certificate authority records"
    else
      .ok (setSectionKey text (authorityName ++ '.' :: overridesName) (quote publicKey)
        (tomlList (given.map py.hostPrefix)), given)

/-- The address is in a prefix of a list. -/
def Within (prefixes : List Text) (a : Address) : Prop :=
  ∃ text ∈ prefixes, ∃ n, py.network text = .ok n ∧ n.contains a = true

/-- The address is one of the interface. -/
def IsOwn (a : Address) : Prop :=
  ∃ text ∈ interfaceEntries doc, ∃ i, py.interface text = .ok i ∧ i.ip = a

/-- A host address of the interface's network that nobody has. -/
structure Free (a : Address) : Prop where
  host : ∃ text ∈ interfaceEntries doc, ∃ i, py.interface text = .ok i ∧ a ∈ i.network.hosts
  own : ¬ IsOwn py doc a
  pinned : ¬ Within py (pinnedPrefixes doc) a
  override : ¬ Within py (overridePrefixes doc) a

/-- Overrides grant the prefixes of `[[peers]]` and of the interface too. -/
def Covered : Prop :=
  ∀ own, interfaceAddresses py doc = .ok own → ∀ i ∈ own, ∀ a ∈ i.network.hosts, a ≠ i.ip →
    IsOwn py doc a ∨ Within py (pinnedPrefixes doc) a → Within py (overridePrefixes doc) a

end Reading

/-- The network of one address. -/
def Address.alone (a : Address) : Network :=
  ⟨a.v6, a.value, 0⟩

section Layout
variable {σ : Type} (scalar : List Char → Option σ) (depth : ℕ)

/-- The editor finds the section of the overrides, complete at its end. -/
def Enrollable (text : Text) : Prop :=
  PlainText text ∧ ∃ s ∈ sectionBounds (splitlines text) (authorityName ++ '.' :: overridesName),
    Opens scalar depth (overrideTarget []) (s.front ++ s.header :: s.body)

instance (text : Text) : Decidable (Enrollable scalar depth text) :=
  inferInstanceAs (Decidable (_ ∧ _))

/-- Enrollments of new keys in turn, with what they read and give. -/
inductive Enrollments : Text → List (List (Entry σ) × List Address) → Prop where
  | done (text : Text) : Enrollments text []
  | next {text text' : Text} {doc : List (Entry σ)} {key : List UInt8} {given : List Address}
      {log : List (List (Entry σ) × List Address)} (parsed : parse scalar depth text = some doc)
      (enrolls : enrollPeer py scalar depth text (Config.hexEncode key).toList = .ok (text', given))
      (fresh : ∀ l ∈ splitlines text, keyMatches (quote (Config.hexEncode key).toList) l = false)
      (hosts : ∀ a ∈ given, py.network (py.hostPrefix a) = .ok a.alone ∧ Clean (py.hostPrefix a))
      (rest : Enrollments text' log) : Enrollments text ((doc, given) :: log)

end Layout

section Addresses
variable {py} {σ : Type} {doc doc' : List (Entry σ)} {given : List Address}

lemma nextAddress_eq_ok {used : List Network} {i : Interface} {a : Address}
    (found : nextAddress py used i = .ok a) :
    a ∈ i.network.hosts ∧ a ≠ i.ip ∧ ∀ n ∈ used, n.contains a = false := by
  rw [nextAddress] at found
  split at found
  · next b first =>
    cases found
    have test := List.find?_some first
    simp only [Bool.and_eq_true, bne_iff_ne, Bool.not_eq_true', List.any_eq_false, Bool.not_eq_true] at test
    exact ⟨List.mem_of_find?_eq_some first, test⟩
  · cases found

lemma mem_interfaceAddresses {own : List Interface} {i : Interface}
    (parsed : interfaceAddresses py doc = .ok own) (mem : i ∈ own) :
    ∃ text ∈ interfaceEntries doc, py.interface text = .ok i := by
  rw [interfaceAddresses, except_bind_ok] at parsed
  obtain ⟨all, each, parsed⟩ := parsed
  refine (except_mapM_values each).2 i ?_
  split at parsed
  · cases parsed
  · next ipv4 first =>
    cases parsed
    obtain rfl | mem := List.mem_cons.1 mem
    · exact List.mem_of_find?_eq_some first
    · exact List.mem_of_find?_eq_some (Option.mem_toList.1 mem)

/-- Every address given is free and a host of its interface. -/
lemma free_of_assign (covered : Covered py doc) (assigned : assignAddresses py doc = .ok given) :
    (∀ a ∈ given, Free py doc a) ∧ (∀ own, interfaceAddresses py doc = .ok own →
      ∀ i ∈ own, ∃ a ∈ given, a ∈ i.network.hosts) ∧ given ≠ [] := by
  simp only [assignAddresses, except_bind_ok] at assigned
  obtain ⟨own, interfaces, used, networks, assigned⟩ := assigned
  have each : ∀ i ∈ own, ∃ a ∈ given, a ∈ i.network.hosts := by
    intro i isOwn
    obtain ⟨a, mem, found⟩ := (except_mapM_values assigned).1 i isOwn
    exact ⟨a, mem, (nextAddress_eq_ok found).1⟩
  refine ⟨?_, ?_, ?_⟩
  · intro a mem
    obtain ⟨i, isOwn, found⟩ := (except_mapM_values assigned).2 a mem
    obtain ⟨host, ne, unused⟩ := nextAddress_eq_ok found
    obtain ⟨text, isEntry, parsed⟩ := mem_interfaceAddresses interfaces isOwn
    have override : ¬ Within py (overridePrefixes doc) a := by
      rintro ⟨text, isPrefix, n, parsed, inside⟩
      obtain ⟨m, mem, same⟩ := (except_mapM_values networks).1 text (List.mem_append_left _ isPrefix)
      cases parsed.symm.trans same
      rw [unused n mem] at inside
      cases inside
    have unseen := covered own interfaces i isOwn a host ne
    exact ⟨⟨text, isEntry, i, parsed, host⟩, fun isOwn => override (unseen (.inl isOwn)),
      fun pinned => override (unseen (.inr pinned)), override⟩
  · intro own' interfaces'
    cases interfaces.symm.trans interfaces'
    exact each
  · rintro rfl
    obtain ⟨ipv4, more, eq⟩ : ∃ ipv4 more, own = ipv4 :: more := by
      rw [interfaceAddresses, except_bind_ok] at interfaces
      obtain ⟨_, _, parsed⟩ := interfaces
      split at parsed
      · cases parsed
      · cases parsed
        exact ⟨_, _, rfl⟩
    obtain ⟨a, mem, _⟩ := each ipv4 (eq ▸ List.mem_cons_self)
    cases mem

lemma enrollPeer_eq_ok {scalar : List Char → Option σ} {depth : ℕ} {text text' key : Text}
    (parsed : parse scalar depth text = some doc)
    (enrolls : enrollPeer py scalar depth text key = .ok (text', given)) :
    assignAddresses py doc = .ok given ∧ key ∉ keysAt doc (direct [authorityName, overridesName]) ∧
      text' = setSectionKey text (authorityName ++ '.' :: overridesName) (quote key)
        (tomlList (given.map py.hostPrefix)) := by
  simp only [enrollPeer, parsed, except_bind_ok] at enrolls
  obtain ⟨revoked, _, given', assigned, rest⟩ := enrolls
  split at rest
  · cases rest
  · next unknown =>
    cases rest
    exact ⟨assigned, (not_or.1 unknown).1, rfl⟩

lemma mem_overridePrefixes {prefix_ : Text} : prefix_ ∈ overridePrefixes doc ↔
    ∃ name values, stringsAt doc (direct [authorityName, overridesName, name]) = some values ∧
      prefix_ ∈ values := by
  rw [overridePrefixes, List.mem_flatMap]
  refine ⟨?_, ?_⟩
  · rintro ⟨name, _, mem⟩
    cases found : stringsAt doc (direct [authorityName, overridesName, name]) with
    | none =>
      rw [found] at mem
      cases mem
    | some values =>
      rw [found] at mem
      exact ⟨name, values, found, mem⟩
  · rintro ⟨name, values, found, mem⟩
    refine ⟨name, List.mem_dedup.2 (mem_keysAt (direct [authorityName, overridesName]) ?_), ?_⟩
    swap
    · rw [found]
      exact mem
    intro none
    have none : lookup doc (direct [authorityName, overridesName, name]) = Option.none := none
    rw [stringsAt, none] at found
    cases found

lemma stringsAt_congr {path : Path} (same : ∀ q, lookup doc' (path ++ q) = lookup doc (path ++ q)) :
    stringsAt doc' path = stringsAt doc path := by
  have root := same []
  rw [List.append_nil] at root
  have upTo (n : ℕ) : stringsUpTo doc' path n = stringsUpTo doc path n := by
    induction n with
    | zero => rfl
    | succ n ih => rw [stringsUpTo, stringsUpTo, ih, stringAt, stringAt, same]
  simp only [stringsAt, root, upTo]

/-- The overrides have grown, and the rest that matters is the same. -/
structure Grows (doc doc' : List (Entry σ)) : Prop where
  entries : interfaceEntries doc' = interfaceEntries doc
  pinned : pinnedPrefixes doc' = pinnedPrefixes doc
  overrides : overridePrefixes doc ⊆ overridePrefixes doc'

lemma Grows.covered (grows : Grows doc doc') (covered : Covered py doc) : Covered py doc' := by
  intro own parsed i mem a host ne unseen
  rw [interfaceAddresses, grows.entries, ← interfaceAddresses] at parsed
  rw [IsOwn, grows.entries, grows.pinned] at unseen
  obtain ⟨text, isPrefix, inside⟩ := covered own parsed i mem a host ne unseen
  exact ⟨text, grows.overrides isPrefix, inside⟩

/-- What a new override does to the values that enrollments read. -/
lemma Effect.grows {key : Text} {values : List Text}
    (effect : Effect (overrideTarget key) doc doc' (some (strings values)))
    (unset : key ∉ keysAt doc (direct [authorityName, overridesName])) :
    Grows doc doc' ∧ values ⊆ overridePrefixes doc' := by
  obtain ⟨others, below⟩ := effect
  have elsewhere {p : Path} (off : ∀ q, ¬ (overrideTarget key).path <+: p ++ q) :
      lookup doc' p = lookup doc p ∧ stringsAt doc' p = stringsAt doc p := by
    refine ⟨?_, stringsAt_congr fun q => others _ (off q)⟩
    have root := others _ (off [])
    rwa [List.append_nil] at root
  have outside {name : Name} {q : Path} (ne : authorityName ≠ name) :
      ¬ (overrideTarget key).path <+: .key name :: q := by
    simp [Target.path, overrideTarget, direct, ne]
  refine ⟨⟨?_, ?_, ?_⟩, ?_⟩
  · have address := elsewhere (p := direct ["interface".toList, "address".toList])
      fun q => outside (by decide)
    have addresses := elsewhere (p := direct ["interface".toList, "addresses".toList])
      fun q => outside (by decide)
    rw [interfaceEntries, interfaceEntries, stringAt, stringAt, address.1, addresses.2]
  · have peers := elsewhere (p := direct ["peers".toList]) fun q => outside (by decide)
    have each (i : ℕ) := elsewhere (p := [.key "peers".toList, .index i, .key "allowed_ips".toList])
      fun q => outside (by decide)
    simp only [pinnedPrefixes, peers.1, fun i => (each i).2]
  · intro text mem
    obtain ⟨name, values, found, mem⟩ := mem_overridePrefixes.1 mem
    refine mem_overridePrefixes.2 ⟨name, values, ?_, mem⟩
    by_cases same : name = key
    · subst same
      refine absurd (mem_keysAt (direct [authorityName, overridesName]) ?_) unset
      intro none
      have none : lookup doc (direct [authorityName, overridesName, name]) = Option.none := none
      rw [stringsAt, none] at found
      cases found
    · rw [(elsewhere (p := direct [authorityName, overridesName, name]) fun q => by
        simpa [Target.path, overrideTarget, direct] using Ne.symm same).2, found]
  · intro text mem
    exact mem_overridePrefixes.2 ⟨key, values, stringsAt_of_lookup below, mem⟩

end Addresses

/-! ### The text after an enrollment -/

section Layout
variable {σ : Type} {scalar : List Char → Option σ} {depth : ℕ} {text value : Text}

lemma names_quote (key : List UInt8) :
    Names (quote (Config.hexEncode key).toList) (Config.hexEncode key).toList := by
  have chars : ∀ c ∈ (Config.hexEncode key).toList,
      (isLegal c = true ∧ isBoundary c = false) ∧ ¬ (c = '"' ∨ c = '\\') :=
    Config.hexEncode_chars (P := fun c => (isLegal c = true ∧ isBoundary c = false) ∧ ¬ (c = '"' ∨ c = '\\'))
      (by decide) key
  generalize (Config.hexEncode key).toList = name at *
  have same : escaped name = name := by
    induction name with
    | nil => rfl
    | cons c name ih =>
      obtain ⟨⟨_, plain⟩, others⟩ := List.forall_mem_cons.1 chars
      rw [escaped, List.flatMap_cons, if_neg plain, ← escaped, ih others]
      rfl
  refine ⟨⟨'"', name ++ ['"'], rfl, by decide, ?_⟩, ?_⟩
  · intro rest
    have read := @run_escaped ('=' :: rest) _ (fun c mem => (chars c mem).1) []
    rw [same] at read
    rw [List.append_assoc]
    refine run_iterate_last ?_
    exact (run_bind read).trans rfl
  · refine List.forall_mem_cons.2 ⟨rfl, List.forall_mem_append.2 ⟨fun c mem => (chars c mem).1.2, ?_⟩⟩
    exact List.forall_mem_singleton.2 rfl

/-- A new line and those behind it, up to a header, are written as they are. -/
lemma splitlines_finish_header {l : Text} {after : List Text} (plain : ∀ m ∈ [l] ++ after, Plain m)
    (more : rstrip l = l) (ne : l ≠ []) (header : ∀ m ∈ after.head?, tomlHeader m = true) :
    ∃ after', splitlines (finish ([l] ++ after)) = l :: after' ∧ ∀ m ∈ after'.head?, tomlHeader m = true := by
  cases after with
  | nil =>
    have lines := @splitlines_finish_concat [] l plain (more.symm ▸ ne)
    exact ⟨[], by rw [more] at lines; exact lines, nofun⟩
  | cons h rest =>
    have isHeader := header h rfl
    have notBlank : rstrip h ≠ [] := by
      intro blank
      rw [← tomlHeader_rstrip, blank] at isHeader
      cases isHeader
    have plainAfter : ∀ m ∈ [h] ++ rest, Plain m := fun m mem => plain m (List.mem_cons_of_mem _ mem)
    refine ⟨splitlines (finish ([h] ++ rest)),
      splitlines_finish_append plain ⟨h, List.mem_cons_self, notBlank⟩, ?_⟩
    by_cases later : ∃ m ∈ rest, rstrip m ≠ []
    · rw [splitlines_finish_append plainAfter later]
      rintro m ⟨⟩
      exact isHeader
    · have blank : ∀ m ∈ rest, rstrip m = [] := by
        intro m mem
        by_contra more
        exact later ⟨m, mem, more⟩
      have alone := @splitlines_finish_concat [] h
        (List.forall_mem_singleton.2 (plainAfter h List.mem_cons_self)) notBlank
      rw [List.nil_append] at alone
      rw [finish_append_blank blank, alone]
      rintro m ⟨⟩
      rw [tomlHeader_rstrip]
      exact isHeader

/-- A new override is the last line of its section. -/
lemma Enrollable.set {key : Text} {v : Value σ} (layout : Enrollable scalar depth text)
    (fresh : ∀ l ∈ splitlines text, keyMatches (quote key) l = false)
    (plainNew : Plain (assignment (quote key) value))
    (reads : lineStatement scalar depth (assignment (quote key) value) = some (some (.pair [key] v)))
    (whole : rstrip (assignment (quote key) value) = assignment (quote key) value) :
    Enrollable scalar depth (setSectionKey text (authorityName ++ '.' :: overridesName) (quote key) value) := by
  obtain ⟨plain, s, found, opens⟩ := layout
  have bounds := sectionBounds_eq_some.1 found
  have own : ∀ l ∈ s.body, keyMatches (quote key) l = false := by
    intro l mem
    refine fresh l ?_
    rw [bounds.whole, Section.withBody]
    simp [mem]
  have cut := Section.cut_of_none own
  have plainAll := plain_set (t := overrideTarget key) plain found plainNew
  have lines := s.withBody_setKey (quote key) value
  change ∀ l ∈ (s.cut (quote key)).1 ++ ([assignment (quote key) value] ++ (s.cut (quote key)).2.2), Plain l
    at plainAll
  rw [cut] at plainAll lines
  dsimp only at plainAll lines
  obtain ⟨after', behind, header⟩ := splitlines_finish_header
    (fun m mem => plainAll m (List.mem_append_right _ mem)) whole (List.cons_ne_nil _ _) bounds.after
  have notBlank : rstrip (assignment (quote key) value) ≠ [] := by
    rw [whole]
    exact List.cons_ne_nil _ _
  have notHeader : tomlHeader (assignment (quote key) value) = false := by
    refine Bool.eq_false_iff.2 fun isHeader => ?_
    cases (firstChar_of_tomlHeader isHeader).symm.trans (rfl : _ = some '"')
  rw [setSectionKey, Option.mem_def.1 found]
  dsimp only
  rw [lines]
  refine ⟨plainText_finish plainAll,
    ⟨s.front, s.header, s.body ++ [assignment (quote key) value], after'⟩, ?_, ?_⟩
  · refine sectionBounds_eq_some.2 ⟨?_, bounds.front, bounds.header, ?_, header⟩
    · rw [splitlines_finish_append plainAll ⟨_, List.mem_cons_self, notBlank⟩, behind, Section.withBody]
      simp
    · exact List.forall_mem_append.2 ⟨bounds.body, List.forall_mem_singleton.2 notHeader⟩
  · have opens' : Opens scalar depth (overrideTarget []) ((s.front ++ s.header :: s.body) ++ ([] ++ [])) := by
      rw [List.append_nil, List.append_nil]
      exact opens
    have openKey : Opens scalar depth (overrideTarget key) (s.front ++ s.header :: s.body) := opens
    have nothing : ReadsAs scalar depth (overrideTarget key) [] none := rfl
    have after := openKey.of_replace nothing (readsAs_line reads) opens'
    simpa using after

variable {py} {doc : List (Entry σ)} {given : List Address} {text' : Text} {key : List UInt8}

/-- What an enrollment writes is read with the new override. -/
lemma Enrollable.enrollPeer (layout : Enrollable scalar (depth + 2) text)
    (parsed : parse scalar (depth + 2) text = some doc) (covered : Covered py doc)
    (enrolls : enrollPeer py scalar (depth + 2) text (Config.hexEncode key).toList = .ok (text', given))
    (fresh : ∀ l ∈ splitlines text, keyMatches (quote (Config.hexEncode key).toList) l = false)
    (clean : ∀ a ∈ given, Clean (py.hostPrefix a)) :
    Enrollable scalar (depth + 2) text' ∧ ∃ doc', parse scalar (depth + 2) text' = some doc' ∧
      Grows doc doc' ∧ given.map py.hostPrefix ⊆ overridePrefixes doc' := by
  obtain ⟨assigned, unknown, rfl⟩ := enrollPeer_eq_ok parsed enrolls
  have names := names_quote key
  generalize (Config.hexEncode key).toList = name at *
  have cleanAll : ∀ t ∈ given.map py.hostPrefix, Clean t := List.forall_mem_map.2 clean
  obtain ⟨value, values, eq⟩ := List.exists_cons_of_ne_nil
    (mt List.map_eq_nil_iff.1 (free_of_assign covered assigned).2.2 : given.map py.hostPrefix ≠ [])
  rw [eq] at cleanAll ⊢
  have plainNew := plain_assignment names cleanAll
  have reads := @lineStatement_assignment σ scalar depth _ _ _ _ names cleanAll
  have whole : rstrip (assignment (quote name) (tomlList (value :: values))) =
      assignment (quote name) (tomlList (value :: values)) := by
    obtain ⟨front, eq⟩ := assignment_tomlList (quote name) (value :: values)
    rw [eq, rstrip, List.rdropWhile_concat_neg _ _ _ (by decide)]
  refine ⟨layout.set fresh plainNew reads whole, ?_⟩
  obtain ⟨plain, s, found, opens⟩ := layout
  have cut : s.cut (quote name) = _ := Section.cut_of_none fun l mem => fresh l (by
    rw [(sectionBounds_eq_some.1 found).whole, Section.withBody]
    simp [mem])
  have unset : lookup doc (overrideTarget name).path = none := by
    by_contra some
    exact unknown (mem_keysAt (direct [authorityName, overridesName]) some)
  have settable : Settable scalar (depth + 2) (overrideTarget name) doc (splitlines text) := by
    refine ⟨s, found, ?_⟩
    change Opens scalar (depth + 2) _ (s.cut (quote name)).1 ∧ (∀ l ∈ (s.cut (quote name)).2.1, _) ∧ _
    rw [cut]
    exact ⟨opens, fun l mem => absurd mem (Option.not_mem_none l), fun _ => unset⟩
  obtain ⟨doc', parsed', effect⟩ :=
    set_effect plain parsed (List.cons_ne_nil _ _) settable reads plainNew
  exact ⟨doc', parsed', effect.grows unknown⟩

/-- Enrollments give free addresses, and none twice. -/
lemma Enrollments.sound {log : List (List (Entry σ) × List Address)}
    (run : Enrollments py scalar (depth + 2) text log) (parsed : parse scalar (depth + 2) text = some doc)
    (layout : Enrollable scalar (depth + 2) text) (covered : Covered py doc) :
    (∀ e ∈ log, overridePrefixes doc ⊆ overridePrefixes e.1 ∧ ∀ a ∈ e.2, Free py e.1 a) ∧
      log.Pairwise fun e f => ∀ a ∈ e.2, a ∉ f.2 := by
  induction run generalizing doc with
  | done text => exact ⟨fun e mem => (List.not_mem_nil mem).elim, .nil⟩
  | next parsed₁ enrolls fresh hosts rest ih =>
    cases parsed₁.symm.trans parsed
    obtain ⟨layout', doc', parsed', grows, listed⟩ :=
      layout.enrollPeer parsed covered enrolls fresh fun a mem => (hosts a mem).2
    obtain ⟨others, pairwise⟩ := ih parsed' layout' (grows.covered covered)
    have free := (free_of_assign covered (enrollPeer_eq_ok parsed enrolls).1).1
    refine ⟨List.forall_mem_cons.2 ⟨⟨List.Subset.refl _, free⟩, ?_⟩, List.pairwise_cons.2 ⟨?_, pairwise⟩⟩
    · intro e mem
      obtain ⟨later, freeLater⟩ := others e mem
      exact ⟨List.Subset.trans grows.overrides later, freeLater⟩
    · intro f mem a mine theirs
      obtain ⟨later, freeLater⟩ := others f mem
      refine (freeLater a theirs).override
        ⟨_, later (listed (List.mem_map_of_mem mine)), a.alone, (hosts a mine).1, ?_⟩
      simp [Network.contains, Address.alone, Network.size]

end Layout

def lanAddress (last : ℕ) : Address :=
  ⟨false, 170524672 + last⟩

/-- The address behind `10.42.0.`, of one digit. -/
def lanParse (text : Text) : Address :=
  lanAddress ((text.getD 8 '0').toNat - 48)

def lanIpaddress : Ipaddress where
  interface text := .ok ⟨lanParse text, ⟨false, 170524672, 8⟩⟩
  network text := .ok (lanParse text).alone
  text a := "10.42.0.".toList ++ (Nat.repr (a.value - 170524672)).toList
  networkText _ := "10.42.0.0/24"

def zeros (n : ℕ) : Text :=
  List.replicate n '0'

/-- A configuration with a pinned peer. -/
def lanText : Text :=
  "bind = \"0.0.0.0:51820\"\n\n[interface]\naddress = \"10.42.0.1/24\"\n\n[[peers]]\nname = \"laptop\"\n".toList ++
    "allowed_ips = [\"10.42.0.2/32\"]\n\n[peers.auth]\nmode = \"pinned-key\"\n".toList ++
    "local_identity_seed = \"".toList ++ zeros 64 ++ "\"\npeer_public_key = \"".toList ++ zeros 64 ++
    "\"\n\n[certificate_authority]\nname = \"ca\"\nca_public_key = \"".toList ++ zeros 64 ++
    "\"\nlocal_identity_seed = \"".toList ++ zeros 64 ++ "\"\nlocal_certificate = \"".toList ++ zeros 224 ++
    "\"\n".toList

/-- The pinned peer's address is an override; another section follows. -/
def coveredText (overrides : List (List UInt8 × ℕ)) : Text :=
  lanText ++ "\n[certificate_authority.peer_overrides]\n\"".toList ++ zeros 64 ++
    "\" = [\"10.42.0.2/32\"]\n\n".toList ++
    (overrides.flatMap fun e => assignment (quote (Config.hexEncode e.1).toList)
      (tomlList [lanIpaddress.hostPrefix (lanAddress e.2)]) ++ ['\n']) ++
    "[rekey]\n    interval_secs=3600 # an hour\n".toList

def lanDocument (text : Text) : List (Entry Text) :=
  (parse some 2 text).getD []

lemma parse_lan {text : Text} (read : (parse (some : Text → Option Text) 2 text).isSome = true) :
    parse some 2 text = some (lanDocument text) := by
  obtain ⟨doc, eq⟩ := Option.isSome_iff_exists.1 read
  rw [lanDocument, eq]
  rfl

lemma covered_coveredText : Covered lanIpaddress (lanDocument (coveredText [])) := by
  have entries : interfaceEntries (lanDocument (coveredText [])) = ["10.42.0.1/24".toList] := by decide +kernel
  have same : pinnedPrefixes (lanDocument (coveredText [])) = overridePrefixes (lanDocument (coveredText [])) := by
    decide +kernel
  intro own parsed i mem a host ne unseen
  rw [interfaceAddresses, entries] at parsed
  rw [IsOwn, entries, same] at unseen
  cases parsed
  obtain ⟨_, isEntry, _, ⟨⟩, rfl⟩ | within := unseen
  · cases List.mem_singleton.1 isEntry
    cases List.mem_singleton.1 mem
    exact absurd rfl ne
  · exact within

open Config in
/-- The configuration that is read from `lanText`. -/
def lanConfig : ServerConfig where
  bind := ⟨.v4 (Bytes.zero 4), 51820⟩
  interface := { address := some "10.42.0.1/24" }
  peers := [{ name := "laptop"
              auth := .pinnedKey (hexEncode (Bytes.zero 32).toList) (hexEncode (Bytes.zero 32).toList)
              allowedIps := ["10.42.0.2/32"] }]
  certificateAuthority := some
    { name := "ca"
      caPublicKey := hexEncode (Bytes.zero 32).toList
      localIdentitySeed := hexEncode (Bytes.zero 32).toList
      localCertificate := hexEncode (Bytes.zero 112).toList }

end Rvpn.Builder
