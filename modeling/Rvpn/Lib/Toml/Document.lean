import Mathlib.Data.List.Basic
import Mathlib.Data.List.Infix
import Mathlib.Data.List.Pairwise

/-!
# TOML documents

A document is the list of its statements, each at its place. A statement claims every path that it
passes, as a table or an array of tables, and its own path for a header or for a value. TOML accepts a
document if the claims of any two statements go together (`Valid`), and what stands at a path is what
the last statement on it says (`lookup`). So a key of a table with a header can be set, changed or
dropped without any effect on the rest.
-/

namespace Rvpn.Toml

abbrev Name := List Char

abbrev Key := List Name

inductive Step where
  | key (name : Name)
  | index (i : ℕ)
  deriving DecidableEq

abbrev Path := List Step

inductive Node (σ : Type) where
  | str (text : List Char)
  | scalar (value : σ)
  | array (length : ℕ)
  | table
  deriving DecidableEq

/-- The path of a key through tables. -/
def direct (key : Key) : Path :=
  key.map Step.key

/-- A value: its root, and what is below by the path from the root. -/
structure Value (σ : Type) where
  root : Node σ
  below : List (Path × Node σ) := []
  deriving DecidableEq

variable {σ : Type}

namespace Value

def node (v : Value σ) (path : Path) : Option (Node σ) :=
  if path = [] then some v.root else v.below.lookup path

def nodes (path : Path) (v : Value σ) : List (Path × Node σ) :=
  (path, v.root) :: v.below.map fun entry => (path ++ entry.1, entry.2)

def array (values : List (Value σ)) : Value σ :=
  ⟨.array values.length, values.zipIdx.flatMap fun v => nodes [.index v.2] v.1⟩

/-- An inline table, with dotted keys; no key goes through another. -/
def table (entries : List (Key × Value σ)) : Option (Value σ) :=
  if entries.Pairwise fun e f => ¬ e.1 <+: f.1 ∧ ¬ f.1 <+: e.1 then
    some ⟨.table, entries.flatMap fun e =>
      (e.1.inits.tail.dropLast.map fun front => (direct front, .table)) ++ nodes (direct e.1) e.2⟩
  else none

end Value

/-- A key with a value, a table header, or one of an array of tables. -/
inductive Statement (σ : Type) where
  | pair (key : Key) (value : Value σ)
  | table (key : Key)
  | array (key : Key)
  deriving DecidableEq

/-- A statement at its place: a header, or a key below one. -/
structure Entry (σ : Type) where
  header : Path
  key : Key := []
  value : Option (Value σ) := none
  deriving DecidableEq

inductive Claim where
  /-- a table that a key passes -/
  | table
  /-- a table that a header opens -/
  | header
  /-- a table that a dotted key passes behind the header -/
  | dotted
  /-- an array of tables with its length so far -/
  | list (length : ℕ)
  | value

/-- Claims to one path that go together. -/
def Claim.fits : Claim → Claim → Bool
  | .table, .table => true
  | .table, .header => true
  | .table, .dotted => true
  | .header, .table => true
  | .dotted, .table => true
  | .dotted, .dotted => true
  | .list _, .list _ => true
  | _, _ => false

namespace Entry

def path (e : Entry σ) : Path :=
  e.header ++ direct e.key

def claim (e : Entry σ) (q : Path) : Option Claim :=
  if q <+: e.path then
    match e.path.drop q.length with
    | [] => if e.value.isSome then some .value else some .header
    | .index i :: _ => some (.list (i + 1))
    | .key _ :: _ => if e.header.length < q.length then some .dotted else some .table
  else none

/-- What a statement says about a path. -/
def node (e : Entry σ) (q : Path) : Option (Node σ) :=
  match e.claim q with
  | some .table => some .table
  | some .header => some .table
  | some .dotted => some .table
  | some (.list n) => some (.array n)
  | _ => e.value.bind fun v => if e.path <+: q then v.node (q.drop e.path.length) else none

/-- A statement says something of what is at or below a path. -/
def Touches (e : Entry σ) (p : Path) : Prop :=
  p <+: e.path ∨ e.value.isSome = true ∧ e.path <+: p

instance (e : Entry σ) (p : Path) : Decidable (e.Touches p) :=
  inferInstanceAs (Decidable (p <+: e.path ∨ e.value.isSome = true ∧ e.path <+: p))

def Compatible (e f : Entry σ) : Prop :=
  ∀ q ∈ e.path.inits, ∀ a ∈ e.claim q, ∀ b ∈ f.claim q, a.fits b = true

instance (e f : Entry σ) : Decidable (Compatible e f) :=
  inferInstanceAs (Decidable (∀ q ∈ e.path.inits, ∀ a ∈ e.claim q, ∀ b ∈ f.claim q, a.fits b = true))

end Entry

/-- The number of tables of an array of tables, from the headers so far. -/
def elements (headers : List Path) (path : Path) : ℕ :=
  headers.countP fun header =>
    match header.getLast? with
    | some (.index _) => header.dropLast = path
    | _ => false

/-- The path of a key: an array of tables stands for its last table. -/
def resolve (headers : List Path) : Path → Key → Path
  | path, [] => path
  | path, name :: key =>
    match elements headers (path ++ [.key name]) with
    | 0 => resolve headers (path ++ [.key name]) key
    | n + 1 => resolve headers (path ++ [.key name, .index n]) key

/-- The place of a statement behind the headers so far, the last one first. -/
def place (headers : List Path) : Statement σ → Entry σ
  | .pair key value => ⟨headers.headD [], key, some value⟩
  | .table key => ⟨resolve headers [] key, [], none⟩
  | .array key =>
    let path := resolve headers [] key.dropLast ++ [.key (key.getLastD [])]
    ⟨path ++ [.index (elements headers path)], [], none⟩

def headersAfter (headers : List Path) (e : Entry σ) : List Path :=
  if e.value.isSome then headers else e.header :: headers

def build : List Path → List (Statement σ) → List (Entry σ)
  | _, [] => []
  | headers, x :: xs => place headers x :: build (headersAfter headers (place headers x)) xs

def opened (headers : List Path) (xs : List (Statement σ)) : List Path :=
  (build headers xs).foldl headersAfter headers

def Valid (doc : List (Entry σ)) : Prop :=
  doc.Pairwise Entry.Compatible

instance (doc : List (Entry σ)) : Decidable (Valid doc) :=
  inferInstanceAs (Decidable (doc.Pairwise Entry.Compatible))

def lookup (doc : List (Entry σ)) (q : Path) : Option (Node σ) :=
  (doc.filterMap fun e => e.node q).getLast?

section Claims
variable {e f : Entry σ} {q : Path} {K : Key} {k : Name} {v : Value σ}

lemma Claim.fits_symm (a b : Claim) : a.fits b = b.fits a := by
  cases a <;> cases b <;> rfl

lemma Entry.isPrefix_of_claim {a : Claim} (claims : e.claim q = some a) : q <+: e.path := by
  rw [Entry.claim] at claims
  split at claims
  · next isPrefix => exact isPrefix
  · cases claims

lemma Entry.compatible_iff : e.Compatible f ↔
    ∀ q a b, e.claim q = some a → f.claim q = some b → a.fits b = true := by
  refine ⟨?_, ?_⟩
  · intro compatible q a b claims claims'
    exact compatible q ((List.mem_inits _ _).2 (isPrefix_of_claim claims)) a claims b claims'
  · intro fits q _ a claims b claims'
    exact fits q a b claims claims'

lemma Entry.Compatible.symm (compatible : e.Compatible f) : f.Compatible e := by
  rw [compatible_iff] at compatible ⊢
  intro q a b claims claims'
  rw [Claim.fits_symm]
  exact compatible q b a claims' claims

def Entry.opening (K : Key) : Entry σ :=
  ⟨direct K, [], none⟩

def Entry.setting (K : Key) (k : Name) (v : Value σ) : Entry σ :=
  ⟨direct K, [k], some v⟩

lemma direct_append (K L : Key) : direct (K ++ L) = direct K ++ direct L :=
  List.map_append

lemma Entry.path_opening : (opening K : Entry σ).path = direct K :=
  List.append_nil _

lemma Entry.path_setting : (setting K k v).path = direct (K ++ [k]) :=
  (direct_append K [k]).symm

lemma drop_direct (isPrefix : q <+: direct K) (ne : q ≠ direct K) :
    ∃ name rest, (direct K).drop q.length = .key name :: rest := by
  obtain ⟨rest, eq⟩ := isPrefix
  rw [← eq, List.drop_left]
  cases rest with
  | nil =>
    rw [List.append_nil] at eq
    exact absurd eq ne
  | cons step rest =>
    have isStep : step ∈ direct K := eq ▸ List.mem_append_right _ List.mem_cons_self
    obtain ⟨name, _, rfl⟩ := List.mem_map.1 isStep
    exact ⟨name, rest, rfl⟩

lemma Entry.claim_opening (isPrefix : q <+: direct K) :
    (opening K : Entry σ).claim q = some .header ∨ (opening K : Entry σ).claim q = some .table := by
  rw [claim, path_opening, if_pos isPrefix]
  by_cases eq : q = direct K
  · rw [eq, List.drop_length]
    exact .inl rfl
  · obtain ⟨name, rest, drop⟩ := drop_direct isPrefix eq
    rw [drop]
    exact .inr (if_neg (not_lt.2 isPrefix.length_le))

lemma Entry.claim_setting (isPrefix : q <+: direct K) : (setting K k v).claim q = some .table := by
  have shorter := isPrefix.length_le
  have onWay : q <+: direct (K ++ [k]) := by
    rw [direct_append]
    exact isPrefix.trans (List.prefix_append _ _)
  have ne : q ≠ direct (K ++ [k]) := by
    rintro rfl
    simp only [direct, List.length_map, List.length_append, List.length_singleton] at shorter
    omega
  obtain ⟨name, rest, drop⟩ := drop_direct onWay ne
  rw [claim, path_setting, if_pos onWay, drop]
  exact if_neg (not_lt.2 shorter)

lemma isPrefix_concat : q <+: direct (K ++ [k]) ↔ q = direct (K ++ [k]) ∨ q <+: direct K := by
  rw [direct_append]
  exact List.prefix_concat_iff

/-- Claims that go with the header of a table. -/
def Entry.Beside (K : Key) (f : Entry σ) : Prop :=
  f = opening K ∨ (opening K).Compatible f

/-- What goes with the header of a table makes tables on the way to it. -/
lemma Entry.Beside.table_fits {b : Claim} (beside : f.Beside K) (isPrefix : q <+: direct K)
    (claims : f.claim q = some b) : Claim.table.fits b = true := by
  have own : (opening K : Entry σ).claim q = some .header ∨ _ := claim_opening isPrefix
  obtain rfl | compatible := beside
  · obtain header | table := own
    · cases header.symm.trans claims
      rfl
    · cases table.symm.trans claims
      rfl
  · have fits := compatible_iff.1 compatible q
    obtain header | table := own
    · have isTable := fits _ _ header claims
      cases b with
      | table => rfl
      | header => cases isTable
      | dotted => cases isTable
      | list n => cases isTable
      | value => cases isTable
    · exact fits _ _ table claims

lemma Entry.claim_path (e : Entry σ) :
    e.claim e.path = if e.value.isSome then some .value else some .header := by
  rw [claim, if_pos (List.prefix_refl _), List.drop_length]

/-- A value is not on the way of another statement. -/
lemma Entry.Compatible.not_above (compatible : e.Compatible f) (isValue : f.value = some v) :
    ¬ f.path <+: e.path := by
  intro above
  have own := f.claim_path
  rw [isValue] at own
  cases claims : e.claim f.path with
  | none =>
    rw [claim, if_pos above] at claims
    split at claims
    · split at claims
      · cases claims
      · cases claims
    · cases claims
    · split at claims
      · cases claims
      · cases claims
  | some a =>
    have fits := compatible_iff.1 compatible _ a _ claims own
    cases a <;> cases fits

lemma Entry.Beside.not_above (beside : f.Beside K) (isValue : f.value = some v) :
    ¬ f.path <+: direct K := by
  obtain rfl | compatible := beside
  · cases isValue
  · rw [← path_opening]
    exact compatible.not_above isValue

lemma Entry.Beside.node (beside : f.Beside K) (isPrefix : q <+: direct K) :
    f.node q = none ∨ f.node q = some .table := by
  rw [Entry.node]
  cases claims : f.claim q with
  | none =>
    refine .inl (Option.bind_eq_none_iff.2 fun v isValue => if_neg ?_)
    intro above
    exact beside.not_above isValue (above.trans isPrefix)
  | some b =>
    have fits := beside.table_fits isPrefix claims
    cases b with
    | table => exact .inr rfl
    | header => exact .inr rfl
    | dotted => exact .inr rfl
    | list n => cases fits
    | value => cases fits

/-- A key goes with what goes with its header and does not name it. -/
lemma Entry.Beside.setting (beside : f.Beside K) (off : ¬ direct (K ++ [k]) <+: f.path) :
    (setting K k v).Compatible f := by
  rw [compatible_iff]
  intro q a b claims claims'
  have onWay := isPrefix_of_claim claims
  rw [path_setting, isPrefix_concat] at onWay
  obtain rfl | onWay := onWay
  · exact absurd (isPrefix_of_claim claims') off
  · rw [claim_setting onWay] at claims
    cases claims
    exact beside.table_fits onWay claims'

/-- Nothing is said where nothing touches. -/
lemma Entry.node_append {p : Path} (off : ¬ f.Touches p) (q : Path) : f.node (p ++ q) = none := by
  obtain ⟨notBelow, notAbove⟩ := not_or.1 off
  have none : f.claim (p ++ q) = none := by
    refine if_neg ?_
    intro onWay
    exact notBelow ((List.prefix_append _ _).trans onWay)
  rw [Entry.node, none]
  refine Option.bind_eq_none_iff.2 fun v isValue => if_neg ?_
  intro above
  obtain reach | reach := List.prefix_or_prefix_of_prefix above (List.prefix_append _ _)
  · exact notAbove ⟨by rw [isValue]; rfl, reach⟩
  · exact notBelow reach

/-- A statement says something of every path on the way to its own. -/
lemma lookup_ne_none {doc : List (Entry σ)} {p : Path} (mem : f ∈ doc) (onWay : p <+: f.path) :
    lookup doc p ≠ none := by
  have own : f.node p ≠ none := by
    rw [Entry.node, Entry.claim, if_pos onWay]
    obtain ⟨rest, eq⟩ := onWay
    rw [← eq, List.drop_left]
    cases rest with
    | nil =>
      rw [List.append_nil] at eq ⊢
      cases isValue : f.value with
      | none => simp
      | some v => simp [Value.node]
    | cons step rest =>
      cases step with
      | index i => simp
      | key name =>
        by_cases deep : f.header.length < p.length
        · simp [deep]
        · simp [deep]
  rw [lookup, Ne, List.getLast?_eq_none_iff, List.filterMap_eq_nil_iff]
  exact fun none => own (none f mem)

/-- What goes with the header does not touch a key without being about it. -/
lemma Entry.Beside.touches (beside : f.Beside K) (touches : f.Touches (direct (K ++ [k]))) :
    direct (K ++ [k]) <+: f.path := by
  obtain below | ⟨isSome, above⟩ := touches
  · exact below
  · obtain ⟨v, isValue⟩ := Option.isSome_iff_exists.1 isSome
    obtain eq | above := isPrefix_concat.1 above
    · rw [eq]
    · exact absurd above (beside.not_above isValue)

lemma Entry.node_setting (isPrefix : q <+: direct K) : (setting K k v).node q = some .table := by
  rw [node, claim_setting isPrefix]

lemma Entry.node_setting_off (off : ¬ direct (K ++ [k]) <+: q) (other : ¬ q <+: direct K) :
    (setting K k v).node q = none := by
  have none : (setting K k v).claim q = none := by
    refine if_neg ?_
    rw [path_setting, isPrefix_concat]
    rintro (rfl | onWay)
    · exact off (List.prefix_refl _)
    · exact other onWay
  rw [node, none]
  refine if_neg ?_
  rwa [path_setting]

lemma Entry.node_setting_below (q : Path) : (setting K k v).node (direct (K ++ [k]) ++ q) = v.node q := by
  have inside : (if (setting K k v).path <+: direct (K ++ [k]) ++ q
      then v.node ((direct (K ++ [k]) ++ q).drop (setting K k v).path.length) else none) = v.node q := by
    rw [path_setting, if_pos (List.prefix_append _ _), List.drop_left]
  have isValue : (setting K k v).claim (direct (K ++ [k]) ++ q) = some .value ∨
      (setting K k v).claim (direct (K ++ [k]) ++ q) = none := by
    cases q with
    | nil =>
      have own := claim_path (setting K k v)
      rw [path_setting] at own
      rw [List.append_nil]
      exact .inl own
    | cons step q =>
      refine .inr (if_neg ?_)
      rw [path_setting]
      intro longer
      have := longer.length_le
      simp only [List.length_append, List.length_cons] at this
      omega
  obtain value | none := isValue
  · rw [node, value]
    exact inside
  · rw [node, none]
    exact inside

end Claims

section Edit
variable {A B : List (Entry σ)} {K : Key} {k : Name} {o o' : Option (Value σ)} {f : Entry σ} {q : Path}

instance : Std.Symm (@Entry.Compatible σ) :=
  ⟨fun _ _ => Entry.Compatible.symm⟩

/-- A document with a key set between other statements, or not set. -/
def edit (A B : List (Entry σ)) (K : Key) (k : Name) (o : Option (Value σ)) : List (Entry σ) :=
  A ++ ((o.map (Entry.setting K k)).toList ++ B)

lemma valid_others (valid : Valid (edit A B K k o)) : Valid (A ++ B) :=
  valid.sublist ((List.Sublist.refl A).append (List.sublist_append_right _ B))

lemma beside_of_mem (valid : Valid (A ++ B)) (opened : .opening K ∈ A ++ B) (mem : f ∈ A ++ B) :
    f.Beside K := by
  by_cases eq : f = .opening K
  · exact .inl eq
  · exact .inr (valid.forall opened mem (Ne.symm eq))

/-- Nobody else says anything of a key that is set. -/
lemma others_of_valid {v : Value σ} (valid : Valid (edit A B K k (some v))) :
    ∀ f ∈ A ++ B, ¬ direct (K ++ [k]) <+: f.path := by
  intro f mem
  have compatible := (List.pairwise_cons.1 ((List.pairwise_middle Entry.Compatible.symm).1 valid)).1 f mem
  rw [← Entry.path_setting]
  exact compatible.symm.not_above rfl

theorem valid_edit (valid : Valid (edit A B K k o)) (opened : .opening K ∈ A ++ B)
    (off : ∀ f ∈ A ++ B, ¬ direct (K ++ [k]) <+: f.path) : Valid (edit A B K k o') := by
  have others := valid_others valid
  cases o' with
  | none => exact others
  | some v =>
    refine (List.pairwise_middle Entry.Compatible.symm).2 (List.pairwise_cons.2 ⟨?_, others⟩)
    intro f mem
    exact (beside_of_mem others opened mem).setting (off f mem)

lemma lookup_of_forall {doc : List (Entry σ)} {n : Node σ} {e : Entry σ}
    (all : ∀ f ∈ doc, f.node q = none ∨ f.node q = some n) (mem : e ∈ doc) (own : e.node q = some n) :
    lookup doc q = some n := by
  have inside : n ∈ doc.filterMap fun e => e.node q := List.mem_filterMap.2 ⟨e, mem, own⟩
  rw [lookup, List.getLast?_eq_some_getLast (List.ne_nil_of_mem inside), Option.some_inj]
  obtain ⟨f, isEntry, last⟩ := List.mem_filterMap.1 (List.getLast_mem (List.ne_nil_of_mem inside))
  obtain no | same := all f isEntry
  · rw [no] at last
    cases last
  · rw [same] at last
    exact (Option.some.inj last).symm

lemma lookup_others (valid : Valid (edit A B K k o)) (opened : .opening K ∈ A ++ B)
    (off : ¬ direct (K ++ [k]) <+: q) : lookup (edit A B K k o) q = lookup (A ++ B) q := by
  cases o with
  | none => rfl
  | some v =>
    by_cases onWay : q <+: direct K
    · have others : ∀ f ∈ A ++ B, f.node q = none ∨ f.node q = some .table := by
        intro f mem
        exact (beside_of_mem (valid_others valid) opened mem).node onWay
      have own : (Entry.opening K : Entry σ).node q = some .table := by
        have claims : (Entry.opening K : Entry σ).claim q = some .header ∨ _ := Entry.claim_opening onWay
        obtain header | table := claims
        · rw [Entry.node, header]
        · rw [Entry.node, table]
      rw [lookup_of_forall others opened own]
      refine lookup_of_forall ?_ (List.mem_append_cons_self) (Entry.node_setting onWay)
      intro f mem
      obtain mem | rfl | mem : f ∈ A ∨ f = _ ∨ f ∈ B := by simpa [edit] using mem
      · exact others f (List.mem_append_left _ mem)
      · exact .inr (Entry.node_setting onWay)
      · exact others f (List.mem_append_right _ mem)
    · simp [lookup, edit, Entry.node_setting_off off onWay]

theorem lookup_edit (valid : Valid (edit A B K k o)) (opened : .opening K ∈ A ++ B)
    (others : ∀ f ∈ A ++ B, ¬ direct (K ++ [k]) <+: f.path) (off : ¬ direct (K ++ [k]) <+: q) :
    lookup (edit A B K k o') q = lookup (edit A B K k o) q := by
  rw [lookup_others valid opened off, lookup_others (valid_edit valid opened others) opened off]

theorem lookup_edit_below (valid : Valid (edit A B K k o)) (opened : .opening K ∈ A ++ B)
    (others : ∀ f ∈ A ++ B, ¬ direct (K ++ [k]) <+: f.path) (q : Path) :
    lookup (edit A B K k o) (direct (K ++ [k]) ++ q) = o.bind fun v => v.node q := by
  have nothing : ∀ f ∈ A ++ B, f.node (direct (K ++ [k]) ++ q) = none := by
    intro f mem
    refine Entry.node_append ?_ q
    intro touches
    exact others f mem ((beside_of_mem (valid_others valid) opened mem).touches touches)
  have left := List.filterMap_eq_nil_iff.2 fun f mem => nothing f (List.mem_append_left _ mem)
  have right := List.filterMap_eq_nil_iff.2 fun f mem => nothing f (List.mem_append_right _ mem)
  rw [lookup, edit, List.filterMap_append, List.filterMap_append, left, right]
  cases o with
  | none => rfl
  | some v => simp [Entry.node_setting_below, List.filterMap_cons]; cases v.node q <;> rfl

end Edit

section Build
variable {headers : List Path} {xs ys : List (Statement σ)} {x : Statement σ} {K : Key}

lemma build_append (headers : List Path) (xs ys : List (Statement σ)) :
    build headers (xs ++ ys) = build headers xs ++ build (opened headers xs) ys := by
  induction xs generalizing headers with
  | nil => rfl
  | cons x xs ih => exact congrArg (_ :: ·) (ih _)

def assign (xs ys : List (Statement σ)) (k : Name) (o : Option (Value σ)) : List (Statement σ) :=
  xs ++ ((o.map fun v => .pair [k] v).toList ++ ys)

lemma build_assign {k : Name} (here : (opened [] xs).headD [] = direct K) (o : Option (Value σ)) :
    build [] (assign xs ys k o) = edit (build [] xs) (build (opened [] xs) ys) K k o := by
  rw [assign, build_append, edit]
  cases o with
  | none => rfl
  | some v =>
    refine congrArg (build [] xs ++ ·) (congrArg (· :: _) ?_)
    rw [Entry.setting, ← here]
    rfl

lemma opened_append (headers : List Path) (xs ys : List (Statement σ)) :
    opened headers (xs ++ ys) = opened (opened headers xs) ys := by
  rw [opened, build_append, List.foldl_append]
  rfl

/-- A key opens no header. -/
lemma opened_assign (k : Name) (o : Option (Value σ)) :
    opened headers (assign xs ys k o) = opened headers (xs ++ ys) := by
  rw [assign, opened_append, opened_append, opened_append]
  cases o with
  | none => rfl
  | some v => rfl

/-- Setting, changing or dropping a key of a section has this effect only. -/
theorem assign_effect {k : Name} {o : Option (Value σ)} (here : (opened [] xs).headD [] = direct K)
    (opens : .opening K ∈ build [] (xs ++ ys)) (valid : Valid (build [] (assign xs ys k o)))
    (others : ∀ f ∈ build [] (xs ++ ys), ¬ direct (K ++ [k]) <+: f.path) (o' : Option (Value σ)) :
    Valid (build [] (assign xs ys k o')) ∧ (∀ q, ¬ direct (K ++ [k]) <+: q →
        lookup (build [] (assign xs ys k o')) q = lookup (build [] (assign xs ys k o)) q) ∧
      ∀ q, lookup (build [] (assign xs ys k o')) (direct (K ++ [k]) ++ q) = o'.bind fun v => v.node q := by
  rw [build_append] at opens others
  rw [build_assign here] at valid ⊢
  have valid' : Valid (edit _ _ K k o') := valid_edit valid opens others
  rw [build_assign here]
  exact ⟨valid', fun q off => lookup_edit valid opens others off, lookup_edit_below valid' opens others⟩

lemma mem_build_of_opened {p : Path} (mem : p ∈ opened headers xs) :
    p ∈ headers ∨ ⟨p, [], none⟩ ∈ build headers xs := by
  induction xs generalizing headers with
  | nil => exact .inl mem
  | cons x xs ih =>
    obtain mem | mem := ih mem
    · cases x with
      | pair key value => exact .inl mem
      | table key =>
        obtain rfl | mem := List.mem_cons.1 mem
        · exact .inr List.mem_cons_self
        · exact .inl mem
      | array key =>
        obtain rfl | mem := List.mem_cons.1 mem
        · exact .inr List.mem_cons_self
        · exact .inl mem
    · exact .inr (List.mem_cons_of_mem _ mem)

end Build
end Rvpn.Toml
