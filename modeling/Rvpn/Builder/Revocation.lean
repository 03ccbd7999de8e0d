import Rvpn.Builder.Edit
import Rvpn.Config.Subjects

/-!
# Revocation of a peer

Model of `_certificate_authority` and `revoke_peer` of `builder/peers.py` and of `toml_str` and
`toml_list` of `builder/render.py`. The configuration is read as TOML, checked, and then edited as a
text: the subject is appended to `revoked_subjects` and its line is removed from `peer_overrides`.
-/

namespace Rvpn.Builder
open Toml

def authorityName : Name := "certificate_authority".toList
def revokedName : Name := "revoked_subjects".toList
def overridesName : Name := "peer_overrides".toList

/-- A text with the characters escaped that `toml_str` escapes. -/
def escaped (value : Text) : Text :=
  value.flatMap fun c => if c = '"' ∨ c = '\\' then ['\\', c] else [c]

/-- `toml_str`. -/
def tomlStr (value : Text) : Text :=
  '"' :: escaped value ++ ['"']

/-- `toml_list`. -/
def tomlList (values : List Text) : Text :=
  '[' :: ", ".toList.intercalate (values.map tomlStr) ++ [']']

/-- `_quote`, of a text without characters that JSON escapes. -/
def quote (value : Text) : Text :=
  '"' :: value ++ ['"']

section Reading
variable {σ : Type}

def stringAt (doc : List (Entry σ)) (path : Path) : Option Text :=
  match lookup doc path with
  | some (.str text) => some text
  | _ => none

def stringsUpTo (doc : List (Entry σ)) (path : Path) : ℕ → Option (List Text)
  | 0 => some []
  | n + 1 => (stringsUpTo doc path n).bind fun texts =>
    (stringAt doc (path ++ [.index n])).map fun text => texts ++ [text]

def stringsAt (doc : List (Entry σ)) (path : Path) : Option (List Text) :=
  match lookup doc path with
  | some (.array n) => stringsUpTo doc path n
  | _ => none

def keysAt (doc : List (Entry σ)) (path : Path) : List Name :=
  (doc.flatMap fun e => e.path.inits ++ e.value.toList.flatMap fun v => (v.nodes e.path).map Prod.fst).filterMap
    fun p => if p.dropLast = path then
      match p.getLast? with
      | some (.key name) => some name
      | _ => none
    else none

/-- The revoked subjects; none if they are not an array of strings. -/
def revokedSubjects (doc : List (Entry σ)) : Option (List Text) :=
  match lookup doc (direct [authorityName, revokedName]) with
  | none => some []
  | some _ => stringsAt doc (direct [authorityName, revokedName])

/-- The overrides are a table of arrays of strings. -/
def validOverrides (doc : List (Entry σ)) : Bool :=
  match lookup doc (direct [authorityName, overridesName]) with
  | none => true
  | some .table => (keysAt doc (direct [authorityName, overridesName])).all fun name =>
    (stringsAt doc (direct [authorityName, overridesName, name])).isSome
  | _ => false

/-- `_certificate_authority`. -/
def certificateAuthority (doc : List (Entry σ)) : Except String (List Text) :=
  let required := ["ca_public_key", "local_identity_seed", "local_certificate"].map fun key =>
    direct [authorityName, key.toList]
  match lookup doc (direct [authorityName]) with
  | some .table =>
    if required.any fun path => (lookup doc path).isNone then
      .error "server certificate authority config is incomplete"
    else if required.any fun path => (stringAt doc path).isNone then
      .error "server certificate authority key and certificate values must be strings"
    else
      match revokedSubjects doc, validOverrides doc with
      | some subjects, true => .ok subjects
      | _, _ => .error "server certificate authority peer records are invalid"
  | _ => .error "server config does not contain [certificate_authority]"

/-- `str.lower`, on ASCII: no other character becomes a hexadecimal digit. -/
def lower (value : Text) : Text :=
  value.map Char.toLower

/-- `revoke_peer` for the subject of the client's certificate. -/
def revokePeer (scalar : List Char → Option σ) (depth : ℕ) (text : Text) (certificate : List UInt8) :
    Except String Text :=
  match parse scalar depth text with
  | none => .error "TOMLDecodeError"
  | some doc => do
    let subjects ← certificateAuthority doc
    let subject := (Config.hexEncode certificate).toList
    if subjects.any fun revoked => decide (lower subject = lower revoked) then
      .error "peer is already revoked"
    else
      let updated := setSectionKey text authorityName revokedName (tomlList (subjects ++ [subject]))
      .ok (removeSectionKey updated (authorityName ++ '.' :: overridesName) (quote subject))

end Reading

section Writing
variable {σ : Type} {scalar : List Char → Option σ} {depth : ℕ} {rest : Text}

/-- A character that is written as it is. -/
def Clean (value : Text) : Prop :=
  ∀ c ∈ value, isLegal c = true ∧ isBoundary c = false

instance (value : Text) : Decidable (Clean value) :=
  List.decidableBAll _ value

variable {value : Text} {values : List Text}

lemma run_escaped (clean : Clean value) (sofar : Text) :
    (scan (stringStep '"' false) (sofar, .text 0) : Reads Text).run (escaped value ++ '"' :: rest) =
      some (sofar ++ value, rest) := by
  induction value generalizing sofar with
  | nil =>
    rw [List.append_nil]
    exact run_scan_last rest rfl
  | cons c value ih =>
    obtain ⟨⟨legal, _⟩, others⟩ := List.forall_mem_cons.1 clean
    have later := ih others (sofar ++ [c])
    rw [List.append_assoc, List.singleton_append] at later
    rw [escaped, List.flatMap_cons]
    split
    · next special =>
      have escape : stringStep '"' false (sofar, .text 0) '\\' = some (.inl (sofar, .escape)) := by
        simp [stringStep, textStep]
      have char : stringStep '"' false (sofar, .escape) c = some (.inl (sofar ++ [c], .text 0)) := by
        obtain rfl | rfl := special
        · rfl
        · rfl
      refine (run_scan_cons _ escape).trans ((run_scan_cons _ char).trans later)
    · next plain =>
      have char : stringStep '"' false (sofar, .text 0) c = some (.inl (sofar ++ [c], .text 0)) := by
        rw [not_or] at plain
        simp [stringStep, textStep, plain.1, plain.2, legal]
      exact (run_scan_cons _ char).trans later

lemma run_value_tomlStr (clean : Clean value) {d : Char} (next : (d == '"') = false) :
    (Toml.value scalar (depth + 1) '"').run (escaped value ++ '"' :: d :: rest) =
      some ({ root := .str value }, d :: rest) := by
  have text : (quoted '"').run (escaped value ++ '"' :: d :: rest) = some (value, d :: rest) := by
    cases value with
    | nil =>
      rw [quoted]
      exact (run_upon_self _).trans (run_upon_other _ next)
    | cons c value =>
      have first : ∃ e s, escaped (c :: value) ++ '"' :: d :: rest = e :: s ∧ (e == '"') = false := by
        rw [escaped, List.flatMap_cons]
        split
        · exact ⟨_, _, rfl, rfl⟩
        · next plain => exact ⟨_, _, rfl, by simp [(not_or.1 plain).1]⟩
      have read := @run_escaped (d :: rest) _ clean []
      obtain ⟨e, s, eq, other⟩ := first
      rw [eq] at read ⊢
      rw [quoted, run_upon_other _ other]
      exact read
  rw [Toml.value, if_pos rfl]
  exact run_bind text

lemma run_element (clean : Clean value) {d : Char} (next : d = ',' ∨ d = ']')
    (sofar : List (Value σ)) {blank : Text} (isBlank : ∀ c ∈ blank, c = ' ') :
    (element (Toml.value scalar (depth + 1)) sofar).run (blank ++ tomlStr value ++ d :: rest) =
      some (if d = ']' then .inr (sofar ++ [{ root := .str value }])
        else .inl (sofar ++ [{ root := .str value }]), rest) := by
  have token : token.run (blank ++ tomlStr value ++ d :: rest) =
      some ('"', escaped value ++ '"' :: d :: rest) := by
    induction blank with
    | nil =>
      rw [tomlStr, List.nil_append, List.append_assoc, List.cons_append]
      exact run_scan_last _ rfl
    | cons c blank ih =>
      obtain ⟨rfl, others⟩ := List.forall_mem_cons.1 isBlank
      exact (run_scan_cons _ rfl).trans (ih others)
  have noQuote : (d == '"') = false := by
    obtain rfl | rfl := next
    · rfl
    · rfl
  rw [element, run_bind token, if_neg (by decide), run_bind (run_value_tomlStr clean noQuote)]
  have after : Toml.token.run (d :: rest) = some (d, rest) := by
    obtain rfl | rfl := next
    · exact run_scan_last _ rfl
    · exact run_scan_last _ rfl
  rw [run_bind after]
  obtain rfl | rfl := next
  · rfl
  · rfl

lemma run_elements (clean : ∀ t ∈ value :: values, Clean t) (sofar : List (Value σ)) {blank : Text}
    (isBlank : ∀ c ∈ blank, c = ' ') : (iterate (element (Toml.value scalar (depth + 1))) sofar).run
        (blank ++ ", ".toList.intercalate ((value :: values).map tomlStr) ++ ']' :: rest) =
      some (sofar ++ (value :: values).map fun t => { root := .str t }, rest) := by
  induction values generalizing value sofar blank with
  | nil =>
    rw [List.map_singleton, List.intercalate_singleton]
    exact run_iterate_last (run_element (clean value List.mem_cons_self) (.inr rfl) sofar isBlank)
  | cons value' values ih =>
    obtain ⟨here, others⟩ := List.forall_mem_cons.1 clean
    have later := ih others (sofar ++ [{ root := .str value }]) (fun c => List.mem_singleton.1)
    have split : blank ++ ", ".toList.intercalate ((value :: value' :: values).map tomlStr) ++ ']' :: rest =
        blank ++ tomlStr value ++ ',' :: ([' '] ++
          ", ".toList.intercalate ((value' :: values).map tomlStr) ++ ']' :: rest) := by
      simp [List.intercalate_cons_cons]
    rw [split]
    refine run_iterate_next (run_element here (.inl rfl) sofar isBlank) ?_ ?_
    · simp only [List.length_append, List.length_cons]
      omega
    · rw [later, List.append_assoc]
      rfl

/-- What `toml_list` writes is an array of strings. -/
def strings (values : List Text) : Value σ :=
  .array (values.map fun t => { root := .str t })

lemma run_value_tomlList (clean : ∀ t ∈ value :: values, Clean t) :
    (Toml.value scalar (depth + 2) '[').run
        (", ".toList.intercalate ((value :: values).map tomlStr) ++ [']']) =
      some (strings (value :: values), []) := by
  have read := @run_elements σ scalar depth [] _ _ clean [] [] nofun
  rw [Toml.value, if_neg (by decide), if_neg (by decide), if_pos rfl]
  exact run_bind read

/-- The text of a key that is read as one name. -/
structure Names (key : Text) (name : Name) : Prop where
  reads : ∃ c cs, key = c :: cs ∧ (isBlank c = false ∧ c ≠ '\n' ∧ c ≠ '#' ∧ c ≠ '[') ∧
    ∀ rest, (Toml.key c).run (cs ++ '=' :: rest) = some ([name], '=' :: rest)
  inner : ∀ c ∈ key, isBoundary c = false

variable {key : Text} {name : Name}

lemma assignment_tomlList (key : Text) (values : List Text) : ∃ front, assignment key (tomlList values) =
    front ++ [']'] := by
  refine ⟨assignment key ('[' :: ", ".toList.intercalate (values.map tomlStr)), ?_⟩
  simp [assignment, tomlList]

lemma lineStatement_assignment (names : Names key name) (clean : ∀ t ∈ value :: values, Clean t) :
    lineStatement scalar (depth + 2) (assignment key (tomlList (value :: values))) =
      some (some (.pair [name] (strings (value :: values)))) := by
  have read := @run_value_tomlList σ scalar depth _ _ clean
  obtain ⟨c, cs, rfl, ⟨notBlank, notNewline, notHash, notBracket⟩, named⟩ := names.reads
  have whole : trimEnd (assignment (c :: cs) (tomlList (value :: values))) =
      assignment (c :: cs) (tomlList (value :: values)) := by
    obtain ⟨front, eq⟩ := assignment_tomlList (c :: cs) (value :: values)
    rw [eq, trimEnd, List.rdropWhile_concat_neg _ _ _ (by decide)]
  rw [lineStatement, whole, tomlList, List.cons_append]
  generalize ", ".toList.intercalate ((value :: values).map tomlStr) ++ [']'] = list at read ⊢
  have equals : (char '=').run ('=' :: '[' :: list) = some ((), '[' :: list) := rfl
  have noBlank : blanks.run ('[' :: list) = some ((), '[' :: list) := rfl
  have bracket : item.run ('[' :: list) = some ('[', list) := rfl
  have pair : (pairStatement scalar (depth + 2) c).run (cs ++ '=' :: '[' :: list) =
      some (.pair [name] (strings (value :: values)), []) := by
    rw [pairStatement, run_bind (named _), run_bind equals, run_bind noBlank, run_bind bracket, run_bind read]
    rfl
  have whole : (statement scalar (depth + 2) c).run (cs ++ '=' :: '[' :: list) =
      some (some (.pair [name] (strings (value :: values))), []) := by
    rw [statement, if_neg notBracket, run_bind pair]
    rfl
  have indent : blanks.run (assignment (c :: cs) ('[' :: list)) = some ((), c :: (cs ++ '=' :: '[' :: list)) := by
    have stop : (c :: (cs ++ '=' :: '[' :: list)).dropWhile isBlank = c :: (cs ++ '=' :: '[' :: list) := by
      rw [List.dropWhile_cons, notBlank]
      rfl
    exact congrArg (fun rest => some ((), rest)) stop
  have first : (ifNext (fun c => c != '\n' && c != '#') (statement scalar (depth + 2)) (pure none)).run
      (c :: (cs ++ '=' :: '[' :: list)) = _ := (if_pos (by simp [notNewline, notHash])).trans whole
  have all : (line scalar (depth + 2)).run (assignment (c :: cs) ('[' :: list)) =
      some (some (.pair [name] (strings (value :: values))), []) := by
    rw [line, run_bind indent, run_bind first]
    rfl
  rw [all]
  rfl

def revokedTarget : Target :=
  ⟨authorityName, [authorityName], revokedName, revokedName⟩

def overrideTarget (subject : Text) : Target :=
  ⟨authorityName ++ '.' :: overridesName, [authorityName, overridesName], quote subject, subject⟩

lemma inner_of_all (h : value.all (fun c => !isBoundary c) = true) : ∀ c ∈ value, isBoundary c = false := by
  simpa using h

lemma inner_tomlStr (clean : Clean value) : ∀ c ∈ tomlStr value, isBoundary c = false := by
  have escapes : ∀ c ∈ escaped value, isBoundary c = false := by
    refine List.forall_mem_flatMap.2 ?_
    intro d mem
    split
    · exact List.forall_mem_cons.2 ⟨rfl, List.forall_mem_singleton.2 (clean d mem).2⟩
    · exact List.forall_mem_singleton.2 (clean d mem).2
  exact List.forall_mem_cons.2 ⟨rfl, List.forall_mem_append.2 ⟨escapes, inner_of_all rfl⟩⟩

lemma plain_assignment (names : Names key name) (clean : ∀ t ∈ values, Clean t) :
    Plain (assignment key (tomlList values)) := by
  have list : ∀ c ∈ ", ".toList.intercalate (values.map tomlStr), isBoundary c = false := by
    induction values with
    | nil => exact nofun
    | cons value values ih =>
      obtain ⟨here, others⟩ := List.forall_mem_cons.1 clean
      cases values with
      | nil => exact List.intercalate_singleton ▸ inner_tomlStr here
      | cons value' values =>
        rw [List.map_cons, List.map_cons, List.intercalate_cons_cons, ← List.map_cons]
        exact List.forall_mem_append.2
          ⟨List.forall_mem_append.2 ⟨inner_tomlStr here, inner_of_all rfl⟩, ih others⟩
  refine ⟨?_, ?_⟩
  · refine List.forall_mem_append.2 ⟨List.forall_mem_append.2 ⟨inner_of_all rfl, names.inner⟩, ?_⟩
    exact List.forall_mem_cons.2 ⟨rfl,
      List.forall_mem_cons.2 ⟨rfl, List.forall_mem_append.2 ⟨list, inner_of_all rfl⟩⟩⟩
  · obtain ⟨front, eq⟩ := assignment_tomlList key values
    rw [eq, rstrip, trimEnd, List.rdropWhile_concat_neg _ _ _ (by decide),
      List.rdropWhile_concat_neg _ _ _ (by decide)]

lemma names_revoked : Names revokedName revokedName :=
  ⟨⟨'r', revokedName.tail, rfl, by decide, fun _ => rfl⟩, inner_of_all rfl⟩

end Writing

section Effect
variable {σ : Type} {scalar : List Char → Option σ} {depth : ℕ} {text : Text} {doc : List (Entry σ)}

lemma mem_keysAt (path : Path) {name : Name} (found : lookup doc (path ++ [.key name]) ≠ none) :
    name ∈ keysAt doc path := by
  obtain ⟨n, isNode⟩ := Option.ne_none_iff_exists'.1 found
  obtain ⟨e, mem, node⟩ := List.mem_filterMap.1 (List.mem_of_getLast? isNode)
  refine List.mem_filterMap.2 ⟨path ++ [.key name], List.mem_flatMap.2 ⟨e, mem, ?_⟩, by simp⟩
  rw [List.mem_append]
  by_cases onWay : path ++ [.key name] <+: e.path
  · exact .inl ((List.mem_inits _ _).2 onWay)
  · have none : e.claim (path ++ [.key name]) = none := if_neg onWay
    rw [Entry.node, none] at node
    obtain ⟨v, isValue, rest⟩ := Option.bind_eq_some_iff.1 node
    obtain ⟨⟨tail, eq⟩, inside⟩ := Option.ite_none_right_eq_some.1 rest
    rw [← eq, List.drop_left, Value.node] at inside
    refine .inr (List.mem_flatMap.2 ⟨v, by rw [isValue]; exact List.mem_singleton_self v, ?_⟩)
    rw [← eq, Value.nodes, List.map_cons, List.mem_cons]
    split at inside
    · next nil => exact .inl (by rw [nil, List.append_nil])
    · obtain ⟨front, behind, split, _⟩ := List.lookup_eq_some_iff.1 inside
      exact .inr (by simp [split])

lemma node_strings {values : List Text} (i : ℕ) :
    (strings values : Value σ).node [.index i] = values[i]?.map .str := by
  have from_ (n : ℕ) : (((values.map fun t => ({ root := .str t } : Value σ)).zipIdx n).flatMap fun v =>
      Value.nodes [.index v.2] v.1).lookup [.index (n + i)] = values[i]?.map .str := by
    induction values generalizing n i with
    | nil => rfl
    | cons t values ih =>
      rw [List.map_cons, List.zipIdx_cons, List.flatMap_cons]
      cases i with
      | zero => simp [Value.nodes]
      | succ i =>
        have later := ih i (n + 1)
        rw [Nat.add_right_comm] at later
        have other : ([Step.index (n + (i + 1))] == [Step.index n]) = false := by simp
        simp only [Value.nodes, List.map_nil, List.cons_append, List.nil_append, List.lookup_cons, other]
        exact later
  have all := from_ 0
  rw [Nat.zero_add] at all
  exact all

lemma stringsAt_of_lookup {path : Path} {values : List Text}
    (nodes : ∀ q, lookup doc (path ++ q) = (strings values : Value σ).node q) :
    stringsAt doc path = some values := by
  have upTo (n : ℕ) (le : n ≤ values.length) : stringsUpTo doc path n = some (values.take n) := by
    induction n with
    | zero => rfl
    | succ n ih =>
      have lt : n < values.length := le
      rw [stringsUpTo, ih (Nat.le_of_succ_le le), stringAt, nodes, node_strings,
        List.getElem?_eq_getElem lt, List.take_succ_eq_append_getElem lt]
      rfl
  have root := nodes []
  rw [List.append_nil] at root
  rw [stringsAt, root]
  have all := upTo values.length le_rfl
  rw [List.take_length] at all
  simpa [Value.node, strings, Value.array] using all

/-- A configuration in which the editor finds what a revocation changes. -/
structure Revocable (scalar : List Char → Option σ) (depth : ℕ) (text : Text) (doc : List (Entry σ))
    (subjects : List Text) (subject : Text) : Prop where
  plain : PlainText text
  revoked : Settable scalar depth revokedTarget doc (splitlines text)
  override : Removable scalar depth (overrideTarget subject) doc (splitlines text)
  clean : ∀ revoked ∈ subjects, Clean revoked

instance [DecidableEq σ] (scalar : List Char → Option σ) (subjects : List Text) (subject : Text) :
    Decidable (Revocable scalar depth text doc subjects subject) :=
  decidable_of_iff (_ ∧ _ ∧ _ ∧ _) ⟨fun h => ⟨h.1, h.2.1, h.2.2.1, h.2.2.2⟩,
    fun h => ⟨h.plain, h.revoked, h.override, h.clean⟩⟩

/-- The subject is revoked and has no override; the rest is as before. -/
structure Revokes (doc doc' : List (Entry σ)) (subjects : List Text) (subject : Text) : Prop where
  revoked : stringsAt doc' (direct [authorityName, revokedName]) = some (subjects ++ [subject])
  override : ∀ name, lower name = subject → lookup doc' (direct [authorityName, overridesName, name]) = none
  others : ∀ q, ¬ direct [authorityName, revokedName] <+: q →
    ¬ direct [authorityName, overridesName, subject] <+: q → lookup doc' q = lookup doc q

def authorityLines : Text :=
  ("[certificate_authority]\nca_public_key = \"00\"\nlocal_identity_seed = \"00\"\n" ++
    "local_certificate = \"00\"\n").toList

/-- A list over several lines, comments and blank lines. -/
def plainText : Text :=
  "[[peers]]\nname = \"laptop\"\nallowed_ips = [\n  \"10.0.0.9/32\",  # home\n]\n\n".toList ++ authorityLines ++
    "revoked_subjects = [\"aa\"]  # lost\n\n[certificate_authority.peer_overrides]\n\"".toList ++
    List.replicate 64 '0' ++ "\" = [\"10.0.0.2/32\"]\n# phone \n\n".toList

/-- Its document. -/
def plainDocument : List (Entry Text) :=
  (parse some 2 plainText).getD []

lemma parse_plainText : parse some 2 plainText = some plainDocument := by
  have read : (parse some 2 plainText).isSome = true := by decide +kernel
  obtain ⟨doc, eq⟩ := Option.isSome_iff_exists.1 read
  rw [plainDocument, eq]
  rfl

lemma revocable_plainText : Revocable some 2 plainText plainDocument ["aa".toList]
    (Config.hexEncode (List.replicate 32 0)).toList := by
  constructor
  case plain => decide +kernel
  case revoked => decide +kernel
  case override => decide +kernel
  case clean => decide +kernel

def multilineText : Text :=
  authorityLines ++ "revoked_subjects = [\n  \"aa\",\n]\n".toList

end Effect
end Rvpn.Builder
