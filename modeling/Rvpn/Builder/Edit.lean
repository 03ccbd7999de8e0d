import Rvpn.Lib.Toml.Syntax

/-!
# The line editor of the builder

Model of `_toml_header`, `_section_bounds`, `_set_section_key` and `_remove_section_key` of
`builder/peers.py`: the configuration is edited line by line, after `read_text` has translated carriage
returns. Where an edited line stands alone and the lines before it are complete, an edit has its effect on
the document (`replace_effect`); the other lines may belong to values that go over several lines.
-/

namespace Rvpn.Builder
open Toml

/-- `str.isspace`. -/
def isSpace (c : Char) : Bool :=
  let n := c.toNat
  decide (9 ≤ n ∧ n ≤ 13 ∨ 0x1c ≤ n ∧ n ≤ 0x20 ∨ 0x2000 ≤ n ∧ n ≤ 0x200a ∨
    n ∈ [0x85, 0xa0, 0x1680, 0x2028, 0x2029, 0x202f, 0x205f, 0x3000])

/-- The characters at which `str.splitlines` splits. -/
def isBoundary (c : Char) : Bool :=
  let n := c.toNat
  decide (10 ≤ n ∧ n ≤ 13 ∨ 0x1c ≤ n ∧ n ≤ 0x1e ∨ n ∈ [0x85, 0x2028, 0x2029])

/-- `str.splitlines`: an empty last line is not a line. -/
def splitlines (text : Text) : List Text :=
  let parts := text.splitOnP isBoundary
  if parts.getLast? = some [] then parts.dropLast else parts

/-- `str.rstrip`. -/
def rstrip (s : Text) : Text :=
  s.rdropWhile isSpace

/-- `str.strip`. -/
def strip (s : Text) : Text :=
  rstrip (s.dropWhile isSpace)

/-- `_toml_header`. -/
def tomlHeader (l : Text) : Bool :=
  let value := strip (l.takeWhile (· != '#'))
  value.head? == some '[' && value.getLast? == some ']' && !value.contains '='

/-- A section: the lines before its header, the header, its own, the rest. -/
structure Section where
  front : List Text
  header : Text
  body : List Text
  after : List Text

def Section.withBody (s : Section) (body : List Text) : List Text :=
  s.front ++ s.header :: (body ++ s.after)

def headerLine (title : Text) : Text :=
  '[' :: title ++ [']']

/-- `_section_bounds`. -/
def sectionBounds (lines : List Text) (title : Text) : Option Section :=
  match lines.dropWhile fun l => strip l != headerLine title with
  | [] => none
  | header :: rest => some {
      front := lines.takeWhile fun l => strip l != headerLine title
      header := header
      body := rest.takeWhile fun l => !tomlHeader l
      after := rest.dropWhile fun l => !tomlHeader l }

/-- The pattern `^\s*key\s*=`. -/
def keyMatches (key : Text) (l : Text) : Bool :=
  let rest := l.dropWhile isSpace
  key.isPrefixOf rest && ((rest.drop key.length).dropWhile isSpace).head? == some '='

/-- `"\n".join(lines).rstrip() + "\n"`. -/
def finish (lines : List Text) : Text :=
  rstrip (['\n'].intercalate lines) ++ ['\n']

def assignment (key value : Text) : Text :=
  "    ".toList ++ key ++ '=' :: value

/-- A section with a key set: its first line is replaced, or one is added. -/
def setKey (key value : Text) (body : List Text) : List Text :=
  match body.dropWhile fun l => !keyMatches key l with
  | [] => body ++ [assignment key value]
  | _ :: rest => body.takeWhile (fun l => !keyMatches key l) ++ assignment key value :: rest

/-- `_set_section_key`. -/
def setSectionKey (text title key value : Text) : Text :=
  let lines := splitlines text
  match sectionBounds lines title with
  | none =>
    let blank := if lines.getLast?.any fun l => !(strip l).isEmpty then [[]] else []
    finish (lines ++ blank ++ [headerLine title, assignment key value])
  | some s => finish (s.withBody (setKey key value s.body))

/-- `_remove_section_key`. -/
def removeSectionKey (text title key : Text) : Text :=
  match sectionBounds (splitlines text) title with
  | none => text
  | some s => finish (s.withBody (s.body.filter fun l => !keyMatches key l))

section Lines
variable {lines : List Text}

variable {l : Text}

lemma not_mem_part {text : Text} {c : Char} (part : l ∈ text.splitOnP isBoundary) (mem : c ∈ l) :
    isBoundary c = false := by
  induction text generalizing l with
  | nil =>
    obtain rfl := List.mem_singleton.1 part
    cases mem
  | cons d text ih =>
    rw [List.splitOnP_cons_eq_if_modifyHead] at part
    split at part
    · obtain rfl | part := List.mem_cons.1 part
      · cases mem
      · exact ih part mem
    · next inner =>
      obtain ⟨first, rest, eq⟩ := List.exists_cons_of_ne_nil (List.splitOnP_ne_nil isBoundary text)
      rw [eq] at part ih
      obtain rfl | part := List.mem_cons.1 part
      · obtain rfl | mem := List.mem_cons.1 mem
        · exact Bool.eq_false_iff.2 inner
        · exact ih List.mem_cons_self mem
      · exact ih (List.mem_cons_of_mem _ part) mem

lemma mem_parts {text : Text} (line : l ∈ splitlines text) : l ∈ text.splitOnP isBoundary := by
  rw [splitlines] at line
  split at line
  · exact List.mem_of_mem_dropLast line
  · exact line

lemma splitOnP_intercalate {p : Char → Bool} (newline : p '\n' = true) (ne : lines ≠ [])
    (inner : ∀ l ∈ lines, ∀ c ∈ l, p c = false) : (['\n'].intercalate lines).splitOnP p = lines := by
  induction lines with
  | nil => exact absurd rfl ne
  | cons l lines ih =>
    obtain ⟨here, others⟩ := List.forall_mem_cons.1 inner
    cases lines with
    | nil => rw [List.intercalate_singleton, List.splitOnP_eq_singleton here]
    | cons l' lines =>
      rw [List.intercalate_cons_cons, List.append_assoc, List.singleton_append,
        List.splitOnP_append_cons_of_forall_mem here '\n' newline, ih (List.cons_ne_nil _ _) others]

lemma intercalate_concat (l : Text) (ne : lines ≠ []) :
    ['\n'].intercalate (lines ++ [l]) = ['\n'].intercalate lines ++ '\n' :: l := by
  induction lines with
  | nil => exact absurd rfl ne
  | cons m lines ih =>
    cases lines with
    | nil => simp
    | cons m' lines =>
      have later := ih (List.cons_ne_nil _ _)
      rw [List.cons_append] at later
      rw [List.cons_append, List.cons_append, List.intercalate_cons_cons, later,
        List.intercalate_cons_cons, List.append_assoc _ _ ('\n' :: l)]

lemma rstrip_append (s t : Text) :
    rstrip (s ++ t) = if rstrip t = [] then rstrip s else s ++ rstrip t :=
  rdropWhile_append isSpace s t

/-- Blank lines at the end and white space behind the last are not written. -/
lemma finish_concat (lines : List Text) (l : Text) : finish (lines ++ [l]) =
    if rstrip l = [] then finish lines else ['\n'].intercalate (lines ++ [rstrip l] ++ [[]]) := by
  rw [intercalate_concat [] (List.append_ne_nil_of_right_ne_nil _ (List.cons_ne_nil _ _)), finish]
  by_cases first : lines = []
  · subst first
    rw [List.nil_append, List.nil_append, List.intercalate_singleton, List.intercalate_singleton]
    split
    · next blank => rw [blank]; rfl
    · rfl
  · have newline : rstrip ('\n' :: l) = if rstrip l = [] then [] else '\n' :: rstrip l :=
      rstrip_append ['\n'] l
    rw [intercalate_concat l first, intercalate_concat (rstrip l) first, rstrip_append, newline]
    split
    · rw [if_pos rfl, finish]
    · rw [if_neg (List.cons_ne_nil _ _)]

/-- No character in the line ends a line, and white space at its end is blank. -/
structure Plain (l : Text) : Prop where
  inner : ∀ c ∈ l, isBoundary c = false
  blank : rstrip l = trimEnd l

instance (l : Text) : Decidable (Plain l) :=
  decidable_of_iff ((l.all fun c => !isBoundary c) ∧ rstrip l = trimEnd l)
    ⟨fun h => ⟨by simpa using h.1, h.2⟩, fun h => ⟨by simpa using h.inner, h.blank⟩⟩

lemma Plain.rstrip (plain : Plain l) : Plain (rstrip l) := by
  have same : Builder.rstrip (Builder.rstrip l) = Builder.rstrip l := List.rdropWhile_idempotent isSpace l
  refine ⟨fun c mem => plain.inner c ((List.rdropWhile_prefix isSpace l).subset mem), ?_⟩
  rw [same, plain.blank]
  exact (List.rdropWhile_idempotent _ l).symm

lemma splitlines_intercalate (inner : ∀ l ∈ lines, ∀ c ∈ l, isBoundary c = false) :
    splitlines (['\n'].intercalate (lines ++ [[]])) = lines := by
  have parts : (['\n'].intercalate (lines ++ [[]])).splitOnP isBoundary = lines ++ [[]] :=
    splitOnP_intercalate (by decide) (List.append_ne_nil_of_right_ne_nil _ (List.cons_ne_nil _ _))
      (List.forall_mem_append.2 ⟨inner, List.forall_mem_singleton.2 nofun⟩)
  rw [splitlines, parts]
  simp

lemma inner_concat (plain : ∀ m ∈ lines ++ [l], Plain m) :
    ∀ m ∈ lines ++ [rstrip l], ∀ c ∈ m, isBoundary c = false := by
  obtain ⟨others, last⟩ := List.forall_mem_append.1 plain
  exact List.forall_mem_append.2 ⟨fun m mem => (others m mem).inner,
    List.forall_mem_singleton.2 (List.forall_mem_singleton.1 last).rstrip.inner⟩

/-- What is written has the lines up to the last that is not blank. -/
lemma splitlines_finish_concat (plain : ∀ m ∈ lines ++ [l], Plain m) (more : rstrip l ≠ []) :
    splitlines (finish (lines ++ [l])) = lines ++ [rstrip l] := by
  rw [finish_concat, if_neg more, splitlines_intercalate (inner_concat plain)]

lemma splitlines_finish_append {A B : List Text} (plain : ∀ l ∈ A ++ B, Plain l)
    (more : ∃ l ∈ B, rstrip l ≠ []) : splitlines (finish (A ++ B)) = A ++ splitlines (finish B) := by
  induction B using List.reverseRecOn with
  | nil => exact absurd more (by simp)
  | append_singleton B l ih =>
    have plainB : ∀ m ∈ B ++ [l], Plain m := fun m mem => plain m (List.mem_append_right _ mem)
    rw [← List.append_assoc] at plain ⊢
    by_cases blank : rstrip l = []
    · rw [finish_concat, finish_concat, if_pos blank, if_pos blank]
      refine ih (fun m mem => plain m (List.mem_append_left _ mem)) ?_
      obtain ⟨m, mem, more⟩ := more
      obtain mem | mem := List.mem_append.1 mem
      · exact ⟨m, mem, more⟩
      · exact absurd (List.mem_singleton.1 mem ▸ blank) more
    · rw [splitlines_finish_concat plain blank, splitlines_finish_concat plainB blank, List.append_assoc]

lemma finish_splitlines_finish (plain : ∀ l ∈ lines, Plain l) :
    finish (splitlines (finish lines)) = finish lines := by
  induction lines using List.reverseRecOn with
  | nil => rfl
  | append_singleton lines l ih =>
    by_cases blank : rstrip l = []
    · rw [finish_concat, if_pos blank]
      exact ih fun m mem => plain m (List.mem_append_left _ mem)
    · have same : rstrip (rstrip l) = rstrip l := List.rdropWhile_idempotent isSpace l
      rw [splitlines_finish_concat plain blank, finish_concat, finish_concat, same]

lemma finish_append_blank {A B : List Text} (blank : ∀ l ∈ B, rstrip l = []) : finish (A ++ B) = finish A := by
  induction B using List.reverseRecOn with
  | nil => rw [List.append_nil]
  | append_singleton B l ih =>
    obtain ⟨others, last⟩ := List.forall_mem_append.1 blank
    rw [← List.append_assoc, finish_concat, if_pos (List.forall_mem_singleton.1 last), ih others]

end Lines

/-- What the lines of a section are. -/
structure Section.Bounds (lines : List Text) (title : Text) (s : Section) : Prop where
  whole : lines = s.withBody s.body
  front : ∀ l ∈ s.front, strip l ≠ headerLine title
  header : strip s.header = headerLine title
  body : ∀ l ∈ s.body, tomlHeader l = false
  after : ∀ l ∈ s.after.head?, tomlHeader l = true

lemma sectionBounds_eq_some {lines : List Text} {title : Text} {s : Section} :
    sectionBounds lines title = some s ↔ s.Bounds lines title := by
  refine ⟨?_, ?_⟩
  · intro bounds
    rw [sectionBounds] at bounds
    split at bounds
    · cases bounds
    · next header rest found =>
      cases bounds
      have isHeader := List.head?_dropWhile_not (fun l => strip l != headerLine title) lines
      rw [found] at isHeader
      refine ⟨?_, ?_, by simpa using isHeader, ?_, ?_⟩
      · rw [Section.withBody, List.takeWhile_append_dropWhile, ← found, List.takeWhile_append_dropWhile]
      · intro l mem
        simpa using List.mem_takeWhile_imp mem
      · intro l mem
        simpa using List.mem_takeWhile_imp mem
      · intro l mem
        have first := List.head?_dropWhile_not (fun l => !tomlHeader l) rest
        rw [Option.mem_def.1 mem] at first
        simpa using first
  · rintro ⟨whole, front, header, body, after⟩
    have skip : ∀ l ∈ s.front, (strip l != headerLine title) = true := by simpa using front
    have own : ∀ l ∈ s.body, (!tomlHeader l) = true := by simpa using body
    have stop : (s.after.takeWhile fun l => !tomlHeader l) = [] ∧
        (s.after.dropWhile fun l => !tomlHeader l) = s.after := by
      cases eq : s.after with
      | nil => exact ⟨rfl, rfl⟩
      | cons l rest =>
        have isHeader := after l (by rw [eq]; rfl)
        simp [isHeader]
    have found : lines.dropWhile (fun l => strip l != headerLine title) = s.header :: (s.body ++ s.after) := by
      rw [whole, Section.withBody, List.dropWhile_append_of_pos skip]
      simp [header]
    have passed : lines.takeWhile (fun l => strip l != headerLine title) = s.front := by
      rw [whole, Section.withBody, List.takeWhile_append_of_pos skip]
      simp [header]
    rw [sectionBounds, found]
    dsimp only
    rw [passed, List.takeWhile_append_of_pos own, List.dropWhile_append_of_pos own, stop.1, stop.2,
      List.append_nil]

/-! ### White space at the end of a line -/

section Space
variable {a w : Text} (space : ∀ c ∈ w, isSpace c = true)
include space

lemma dropWhile_append_space (a : Text) :
    (a ++ w).dropWhile isSpace = if a.dropWhile isSpace = [] then [] else a.dropWhile isSpace ++ w := by
  rw [List.dropWhile_append, List.dropWhile_eq_nil_iff.2 space]
  simp only [List.isEmpty_iff]

lemma strip_append_space (a : Text) : strip (a ++ w) = strip a := by
  have none : rstrip w = [] := List.rdropWhile_eq_nil_iff.2 space
  rw [strip, strip, dropWhile_append_space space]
  split
  · next nothing => rw [nothing]
  · rw [rstrip_append, if_pos none]

lemma tomlHeader_append_space (a : Text) : tomlHeader (a ++ w) = tomlHeader a := by
  have same : strip ((a ++ w).takeWhile (· != '#')) = strip (a.takeWhile (· != '#')) := by
    rw [List.takeWhile_append]
    split
    · refine (strip_append_space (fun c mem => space c ((List.takeWhile_prefix _).subset mem)) a).trans ?_
      next whole => rw [(List.takeWhile_prefix _).eq_of_length whole]
    · rfl
  rw [tomlHeader, tomlHeader, same]

lemma keyMatches_append_space (key a : Text) : keyMatches key (a ++ w) = keyMatches key a := by
  rw [keyMatches, keyMatches, dropWhile_append_space space]
  split
  · next nothing => rw [nothing]
  · generalize a.dropWhile isSpace = x
    by_cases here : key.length ≤ x.length
    · have before : key.isPrefixOf (x ++ w) = key.isPrefixOf x := by
        rw [Bool.eq_iff_iff, List.isPrefixOf_iff_prefix, List.isPrefixOf_iff_prefix]
        exact ⟨fun h => List.prefix_of_prefix_length_le h (List.prefix_append _ _) here,
          fun h => h.trans (List.prefix_append _ _)⟩
      rw [before, List.drop_append_of_le_length here, dropWhile_append_space space]
      split
      · next nothing => rw [nothing]
      · next more =>
        obtain ⟨c, cs, eq⟩ := List.exists_cons_of_ne_nil more
        rw [eq]
        rfl
    · -- behind a key that goes over the end there is only white space
      have long : key.isPrefixOf x = false := by
        rw [Bool.eq_false_iff, Ne, List.isPrefixOf_iff_prefix]
        exact fun h => here h.length_le
      have behind : ((x ++ w).drop key.length).dropWhile isSpace = [] := by
        rw [List.drop_append, List.drop_eq_nil_of_le (Nat.le_of_not_le here), List.nil_append]
        exact List.dropWhile_eq_nil_iff.2 fun c mem => space c (List.mem_of_mem_drop mem)
      rw [long, behind]
      exact Bool.and_false _

end Space

lemma exists_space (l : Text) : ∃ w, rstrip l ++ w = l ∧ ∀ c ∈ w, isSpace c = true :=
  ⟨l.rtakeWhile isSpace, List.rdropWhile_append_rtakeWhile, fun _ => List.mem_rtakeWhile_imp⟩

lemma tomlHeader_rstrip (l : Text) : tomlHeader (rstrip l) = tomlHeader l := by
  obtain ⟨w, eq, space⟩ := exists_space l
  rw [← tomlHeader_append_space space, eq]

lemma keyMatches_rstrip (key l : Text) : keyMatches key (rstrip l) = keyMatches key l := by
  obtain ⟨w, eq, space⟩ := exists_space l
  rw [← keyMatches_append_space space, eq]

/-! ### The pass that removes a key -/

/-- Where a line stands with respect to a section. -/
inductive Region where
  | before
  | inside
  | behind
  deriving DecidableEq

namespace Region
variable (title key : Text)

/-- Where the next line stands. -/
def next : Region → Text → Region
  | .before, l => if strip l = headerLine title then .inside else .before
  | .inside, l => if tomlHeader l then .behind else .inside
  | .behind, _ => .behind

/-- The line is one that `_remove_section_key` leaves out. -/
def drops (r : Region) (l : Text) : Bool :=
  r == .inside && !tomlHeader l && keyMatches key l

/-- The lines without those that are left out. -/
def sweep : Region → List Text → List Text
  | _, [] => []
  | r, l :: lines => (if r.drops key l then [] else [l]) ++ sweep (r.next title l) lines

/-- The lines that are left out. -/
def dropped : Region → List Text → List Text
  | _, [] => []
  | r, l :: lines => (if r.drops key l then [l] else []) ++ dropped (r.next title l) lines

variable {title key} {r : Region} {l : Text}

lemma sweep_append (r : Region) (A B : List Text) :
    r.sweep title key (A ++ B) = r.sweep title key A ++ (A.foldl (next title) r).sweep title key B := by
  induction A generalizing r with
  | nil => rfl
  | cons l A ih => rw [List.cons_append, sweep, sweep, ih, List.append_assoc, List.foldl_cons]

lemma dropped_append (r : Region) (A B : List Text) :
    r.dropped title key (A ++ B) = r.dropped title key A ++ (A.foldl (next title) r).dropped title key B := by
  induction A generalizing r with
  | nil => rfl
  | cons l A ih => rw [List.cons_append, dropped, dropped, ih, List.append_assoc, List.foldl_cons]

variable {lines : List Text}

lemma sweep_of_dropped (none : r.dropped title key lines = []) : r.sweep title key lines = lines := by
  induction lines generalizing r with
  | nil => rfl
  | cons l lines ih =>
    obtain ⟨here, later⟩ := List.append_eq_nil_iff.1 none
    rw [sweep, ih later]
    split at here
    · cases here
    · next kept => rw [if_neg kept, List.singleton_append]

lemma drops_rstrip (r : Region) (l : Text) : r.drops key (rstrip l) = r.drops key l := by
  rw [drops, drops, tomlHeader_rstrip, keyMatches_rstrip]

lemma drops_blank (blank : rstrip l = []) (r : Region) : r.drops key l = false := by
  rw [← drops_rstrip, blank, drops, keyMatches]
  cases key <;> simp

/-- Blank lines and white space at the end make no difference. -/
lemma finish_sweep (plain : ∀ l ∈ lines, Plain l) (r : Region) :
    finish (r.sweep title key (splitlines (finish lines))) = finish (r.sweep title key lines) := by
  induction lines using List.reverseRecOn with
  | nil =>
    have one : r.sweep title key [[]] = [[]] := by rw [sweep, drops_blank rfl]; rfl
    have parts : splitlines (finish []) = [[]] := rfl
    rw [parts, one]
    rfl
  | append_singleton lines l ih =>
    have last (m : Text) : r.sweep title key (lines ++ [m]) = r.sweep title key lines ++
        if (lines.foldl (next title) r).drops key m then [] else [m] := by
      rw [sweep_append, sweep, sweep, List.append_nil]
    by_cases blank : rstrip l = []
    · rw [finish_concat, if_pos blank, last, drops_blank blank, if_neg Bool.false_ne_true, finish_concat,
        if_pos blank]
      exact ih fun m mem => plain m (List.mem_append_left _ mem)
    · have same : rstrip (rstrip l) = rstrip l := List.rdropWhile_idempotent isSpace l
      rw [splitlines_finish_concat plain blank, last, last, drops_rstrip]
      split
      · rfl
      · rw [finish_concat, finish_concat, same]

lemma foldl_before (key : Text) (other : ∀ l ∈ lines, strip l ≠ headerLine title) :
    lines.foldl (next title) .before = .before ∧ before.dropped title key lines = [] := by
  induction lines with
  | nil => exact ⟨rfl, rfl⟩
  | cons l lines ih =>
    obtain ⟨here, others⟩ := List.forall_mem_cons.1 other
    have stays : next title .before l = .before := if_neg here
    rw [List.foldl_cons, dropped, stays]
    exact ih others

lemma foldl_inside (title key : Text) (body : ∀ l ∈ lines, tomlHeader l = false) :
    lines.foldl (next title) .inside = .inside ∧
      inside.dropped title key lines = lines.filter (keyMatches key) := by
  induction lines with
  | nil => exact ⟨rfl, rfl⟩
  | cons l lines ih =>
    obtain ⟨here, others⟩ := List.forall_mem_cons.1 body
    have stays : next title .inside l = .inside := if_neg (by rw [here]; exact Bool.false_ne_true)
    have drops : inside.drops key l = keyMatches key l := by rw [drops, here]; rfl
    rw [List.foldl_cons, dropped, stays, drops, List.filter_cons, (ih others).2]
    refine ⟨(ih others).1, ?_⟩
    split
    · rfl
    · rfl

lemma dropped_behind (lines : List Text) : behind.dropped title key lines = [] := by
  induction lines with
  | nil => rfl
  | cons l lines ih => exact ih

lemma dropped_after (header : ∀ l ∈ lines.head?, tomlHeader l = true) :
    inside.dropped title key lines = [] := by
  cases lines with
  | nil => rfl
  | cons l lines =>
    have isHeader := header l rfl
    have leaves : next title .inside l = .behind := if_pos isHeader
    rw [dropped, leaves, dropped_behind, drops, isHeader]
    rfl

end Region

section Removal
variable {lines : List Text} {title key : Text} {s : Section}

lemma Section.Bounds.foldl (bounds : s.Bounds lines title) {pre : List Text} (own : ∀ l ∈ pre, l ∈ s.body) :
    (s.front ++ s.header :: pre).foldl (Region.next title) .before = .inside := by
  have enters : Region.next title .before s.header = .inside := if_pos bounds.header
  rw [List.foldl_append, (Region.foldl_before [] bounds.front).1, List.foldl_cons, enters]
  exact (Region.foldl_inside title [] fun l mem => bounds.body l (own l mem)).1

lemma Section.Bounds.dropped (bounds : s.Bounds lines title) (key : Text) :
    Region.before.dropped title key lines = s.body.filter (keyMatches key) := by
  have enters : Region.next title .before s.header = .inside := if_pos bounds.header
  obtain ⟨stays, none⟩ := Region.foldl_before key bounds.front
  obtain ⟨inside, own⟩ := Region.foldl_inside title key bounds.body
  rw [bounds.whole, Section.withBody, Region.dropped_append, none, stays, Region.dropped, enters,
    Region.dropped_append, inside, own, Region.dropped_after bounds.after, List.append_nil]
  rfl

lemma Section.Bounds.sweep (bounds : s.Bounds lines title) : Region.before.sweep title key lines =
    s.withBody (s.body.filter fun l => !keyMatches key l) := by
  have enters : Region.next title .before s.header = .inside := if_pos bounds.header
  obtain ⟨stays, none⟩ := Region.foldl_before key bounds.front
  obtain ⟨inside, _⟩ := Region.foldl_inside title key bounds.body
  have kept : ∀ body : List Text, (∀ l ∈ body, tomlHeader l = false) →
      Region.inside.sweep title key body = body.filter fun l => !keyMatches key l := by
    intro body own
    induction body with
    | nil => rfl
    | cons l body ih =>
      obtain ⟨here, others⟩ := List.forall_mem_cons.1 own
      have stays : Region.next title .inside l = .inside := if_neg (by rw [here]; exact Bool.false_ne_true)
      have drops : Region.inside.drops key l = keyMatches key l := by rw [Region.drops, here]; rfl
      rw [Region.sweep, stays, ih others, drops, List.filter_cons]
      cases keyMatches key l <;> rfl
  rw [bounds.whole, Section.withBody, Section.withBody, Region.sweep_append, stays,
    Region.sweep_of_dropped none, Region.sweep, enters, Region.sweep_append, inside, kept _ bounds.body,
    Region.sweep_of_dropped (Region.dropped_after bounds.after)]
  rfl

/-- What `_remove_section_key` makes of a text that an edit has written. -/
lemma removeSectionKey_finish (plain : ∀ l ∈ lines, Plain l) (title key : Text) :
    removeSectionKey (finish lines) title key = finish (Region.before.sweep title key lines) := by
  rw [← Region.finish_sweep plain, removeSectionKey]
  cases found : sectionBounds (splitlines (finish lines)) title with
  | some s => rw [(sectionBounds_eq_some.1 found).sweep]
  | none =>
    have other : ∀ l ∈ splitlines (finish lines), strip l ≠ headerLine title := by
      rw [sectionBounds] at found
      split at found
      · next all => simpa using List.dropWhile_eq_nil_iff.1 all
      · cases found
    rw [Region.sweep_of_dropped (Region.foldl_before key other).2, finish_splitlines_finish plain]

end Removal

/-! ### Lines that belong to another key -/

/-- The first character of a line that is not white space. -/
def firstChar (l : Text) : Option Char :=
  (l.dropWhile isSpace).head?

variable {l : Text}

lemma firstChar_of_strip {rest : Text} {c : Char} (eq : strip l = c :: rest) :
    firstChar l = some c := by
  obtain ⟨tail, whole⟩ := List.rdropWhile_prefix isSpace (l.dropWhile isSpace)
  have start : strip l ++ tail = l.dropWhile isSpace := whole
  rw [firstChar, ← start, eq]
  rfl

lemma firstChar_of_tomlHeader (header : tomlHeader l = true) : firstChar l = some '[' := by
  rw [tomlHeader, Bool.and_eq_true, Bool.and_eq_true, beq_iff_eq] at header
  obtain ⟨rest, eq⟩ := List.head?_eq_some_iff.1 header.1.1
  have first := firstChar_of_strip eq
  obtain ⟨x, eq⟩ := List.head?_eq_some_iff.1 first
  have whole := @List.takeWhile_append_dropWhile _ (· != '#') l
  rw [firstChar, ← whole, List.dropWhile_append, eq]
  rfl

lemma firstChar_of_keyMatches {key : Text} {c : Char} (head : key.head? = some c)
    (isKey : keyMatches key l = true) : firstChar l = some c := by
  rw [keyMatches, Bool.and_eq_true, List.isPrefixOf_iff_prefix] at isKey
  obtain ⟨rest, eq⟩ := isKey.1
  obtain ⟨tail, rfl⟩ := List.head?_eq_some_iff.1 head
  rw [firstChar, ← eq]
  rfl

/-- The line is no header, and no line of the key. -/
def Inert (key l : Text) : Prop :=
  firstChar l ≠ some '[' ∧ keyMatches key l = false

namespace Inert
variable {title key m l : Text} {before olds behind P Q : List Text}

lemma next (inert : Inert key m) (r : Region) : r.next title m = r := by
  cases r with
  | before => exact if_neg fun eq => inert.1 (firstChar_of_strip eq)
  | inside => exact if_neg fun header => inert.1 (firstChar_of_tomlHeader header)
  | behind => rfl

lemma drops (inert : Inert key m) (r : Region) : r.drops key m = false := by
  rw [Region.drops, inert.2, Bool.and_false]

lemma foldl (inert : ∀ m ∈ olds, Inert key m) (r : Region) : olds.foldl (Region.next title) r = r := by
  induction olds with
  | nil => rfl
  | cons m olds ih =>
    obtain ⟨here, others⟩ := List.forall_mem_cons.1 inert
    rw [List.foldl_cons, here.next, ih others]

lemma dropped (inert : ∀ m ∈ olds, Inert key m) (r : Region) : r.dropped title key olds = [] := by
  induction olds with
  | nil => rfl
  | cons m olds ih =>
    obtain ⟨here, others⟩ := List.forall_mem_cons.1 inert
    rw [Region.dropped, here.next, here.drops, ih others]
    rfl

/-- Other inert lines in their place leave the same lines out. -/
lemma dropped_replace {news : List Text} (inert : ∀ m ∈ olds, Inert key m) (inert' : ∀ m ∈ news, Inert key m)
    (r : Region) : r.dropped title key (before ++ (olds ++ behind)) =
      r.dropped title key (before ++ (news ++ behind)) := by
  simp only [Region.dropped_append, dropped inert, dropped inert', foldl inert, foldl inert', List.nil_append]

lemma foldl_replace {news : List Text} (inert : ∀ m ∈ olds, Inert key m) (inert' : ∀ m ∈ news, Inert key m)
    (r : Region) : (before ++ (olds ++ behind)).foldl (Region.next title) r =
      (before ++ (news ++ behind)).foldl (Region.next title) r := by
  simp only [List.foldl_append, foldl inert, foldl inert']

/-- A line of the key stands before the inert lines or behind them. -/
lemma split (inert : ∀ m ∈ olds, Inert key m) (isKey : keyMatches key l = true)
    (eq : before ++ (olds ++ behind) = P ++ l :: Q) :
    (∃ M, before = P ++ l :: M ∧ Q = M ++ (olds ++ behind)) ∨
      ∃ M, P = before ++ (olds ++ M) ∧ behind = M ++ l :: Q := by
  have notOld : l ∉ olds := by
    intro mem
    rw [(inert l mem).2] at isKey
    cases isKey
  obtain ⟨a, rfl, rest⟩ | ⟨c, rfl, rest⟩ := List.append_eq_append_iff.1 eq
  · obtain ⟨a', rfl, inner⟩ | ⟨c, rfl, inner⟩ := List.append_eq_append_iff.1 rest
    · exact .inr ⟨a', rfl, inner⟩
    · cases c with
      | nil => exact .inr ⟨[], by simp, by simpa using inner.symm⟩
      | cons m c =>
        obtain ⟨rfl, _⟩ := List.cons.inj inner
        exact absurd (by simp) notOld
  · cases c with
    | cons m c =>
      obtain ⟨rfl, rfl⟩ := List.cons.inj rest
      exact .inl ⟨c, rfl, rfl⟩
    | nil =>
      cases olds with
      | nil => exact .inr ⟨[], by simp, by simpa using rest.symm⟩
      | cons m olds =>
        obtain ⟨rfl, _⟩ := List.cons.inj rest
        exact absurd List.mem_cons_self notOld

end Inert

/-! ### The effect of an edit on the document -/

/-- A key of a section: as the editor looks for it, and as TOML names it. -/
structure Target where
  title : Text
  table : Key
  key : Text
  name : Name

/-- The path of the key. -/
def Target.path (t : Target) : Path :=
  direct (t.table ++ [t.name])

/-- What an edit of a key does to a document. -/
def Effect {σ : Type} (t : Target) (doc doc' : List (Entry σ)) (new : Option (Value σ)) : Prop :=
  (∀ q, ¬ t.path <+: q → lookup doc' q = lookup doc q) ∧
    ∀ q, lookup doc' (t.path ++ q) = new.bind fun v => v.node q

/-- Lines end with newlines only, with no white space but blanks at their end. -/
def PlainText (text : Text) : Prop :=
  text.splitOn '\n' = text.splitOnP isBoundary ∧ ∀ l ∈ splitlines text, rstrip l = trimEnd l

instance (text : Text) : Decidable (PlainText text) :=
  inferInstanceAs (Decidable (_ ∧ _))

lemma PlainText.plain {text : Text} (plain : PlainText text) : ∀ l ∈ splitlines text, Plain l :=
  fun l mem => ⟨fun _ => not_mem_part (mem_parts mem), plain.2 l mem⟩

/-- What is written is again such a text. -/
lemma plainText_finish {lines : List Text} (plain : ∀ l ∈ lines, Plain l) : PlainText (finish lines) := by
  induction lines using List.reverseRecOn with
  | nil => decide
  | append_singleton lines l ih =>
    by_cases blank : rstrip l = []
    · rw [finish_concat, if_pos blank]
      exact ih fun m mem => plain m (List.mem_append_left _ mem)
    · have inner := inner_concat plain
      have ne : lines ++ [rstrip l] ++ [[]] ≠ [] :=
        List.append_ne_nil_of_right_ne_nil _ (List.cons_ne_nil _ _)
      have whole : ∀ m ∈ lines ++ [rstrip l] ++ [[]], ∀ c ∈ m, isBoundary c = false :=
        List.forall_mem_append.2 ⟨inner, List.forall_mem_singleton.2 nofun⟩
      refine ⟨?_, ?_⟩
      · rw [finish_concat, if_neg blank, splitOnP_intercalate (by decide) ne whole]
        refine splitOnP_intercalate (beq_self_eq_true _) ne ?_
        intro m mem c isChar
        rw [beq_eq_false_iff_ne]
        rintro rfl
        cases whole m mem _ isChar
      · obtain ⟨others, last⟩ := List.forall_mem_append.1 plain
        rw [splitlines_finish_concat plain blank]
        exact List.forall_mem_append.2 ⟨fun m mem => (others m mem).blank,
          List.forall_mem_singleton.2 (List.forall_mem_singleton.1 last).rstrip.blank⟩

/-- The place of a key: the lines before, its first line, the lines behind. -/
def Section.cut (s : Section) (key : Text) : List Text × Option Text × List Text :=
  match s.body.dropWhile fun l => !keyMatches key l with
  | [] => (s.front ++ s.header :: s.body, none, s.after)
  | l :: rest =>
    (s.front ++ s.header :: s.body.takeWhile fun l => !keyMatches key l, some l, rest ++ s.after)

section Cut
variable {lines : List Text} {title key : Text} {s : Section}

lemma Section.withBody_setKey (s : Section) (key value : Text) :
    s.withBody (setKey key value s.body) = (s.cut key).1 ++ ([assignment key value] ++ (s.cut key).2.2) := by
  rw [setKey, Section.cut]
  split
  · simp [Section.withBody]
  · simp [Section.withBody]

lemma Section.withBody_cut (s : Section) (key : Text) :
    s.withBody s.body = (s.cut key).1 ++ ((s.cut key).2.1.toList ++ (s.cut key).2.2) := by
  rw [Section.cut]
  split
  · simp [Section.withBody]
  · next l rest found =>
    have parts := @List.takeWhile_append_dropWhile _ (fun l => !keyMatches key l) s.body
    rw [found] at parts
    rw [Section.withBody]
    nth_rewrite 1 [← parts]
    simp

lemma Section.cut_of_none {s : Section} (none : ∀ l ∈ s.body, keyMatches key l = false) :
    s.cut key = (s.front ++ s.header :: s.body, Option.none, s.after) := by
  have all : (s.body.dropWhile fun l => !keyMatches key l) = [] :=
    List.dropWhile_eq_nil_iff.2 fun l mem => by rw [none l mem]; rfl
  rw [Section.cut, all]

lemma Section.keyMatches_of_cut {s : Section} {l : Text} (found : l ∈ (s.cut key).2.1) :
    keyMatches key l = true := by
  rw [Section.cut] at found
  split at found
  · cases found
  · next m rest first =>
    cases found
    have isKey := List.head?_dropWhile_not (fun l => !keyMatches key l) s.body
    rw [first] at isKey
    simpa using isKey

/-- The only line of its key in the section is the one left out. -/
lemma Section.Bounds.dropped_cut (bounds : s.Bounds lines title) {l : Text}
    (found : (s.cut key).2.1 = some l) (once : s.body.filter (keyMatches key) = [l]) :
    Region.before.dropped title key (s.cut key).1 = [] ∧
      ((s.cut key).1.foldl (Region.next title) .before).drops key l = true ∧
      (((s.cut key).1 ++ [l]).foldl (Region.next title) .before).dropped title key (s.cut key).2.2 = [] := by
  have whole := s.withBody_cut key
  have isKey := Section.keyMatches_of_cut (Option.mem_def.2 found)
  have all := bounds.dropped key
  rw [bounds.whole, whole, found, Option.toList_some, Region.dropped_append, once] at all
  have inside : ((s.cut key).1.foldl (Region.next title) .before) = .inside ∧ l ∈ s.body := by
    rw [Section.cut] at found ⊢
    split at found
    · cases found
    · next m rest first =>
      cases found
      refine ⟨bounds.foldl fun l mem => (List.takeWhile_prefix _).subset mem, ?_⟩
      exact (List.dropWhile_suffix _).subset (first ▸ List.mem_cons_self)
  have drops : ((s.cut key).1.foldl (Region.next title) .before).drops key l = true := by
    rw [inside.1, Region.drops, bounds.body l inside.2, isKey]
    rfl
  rw [List.singleton_append, Region.dropped, drops, if_pos rfl] at all
  have lengths := congrArg List.length all
  simp only [List.length_append, List.length_singleton] at lengths
  refine ⟨List.eq_nil_of_length_eq_zero (by omega), drops, ?_⟩
  rw [List.foldl_append]
  exact List.eq_nil_of_length_eq_zero (by simp only [List.foldl_cons, List.foldl_nil]; omega)

end Cut

section Effects
variable {σ : Type} (scalar : List Char → Option σ) (depth : ℕ)

/-- The lines are complete, and the table of the key is open behind them. -/
def Opens (t : Target) (lines : List Text) : Prop :=
  ∃ xs ∈ statements scalar depth [] lines, (opened [] xs).headD [] = direct t.table

instance (t : Target) (lines : List Text) : Decidable (Opens scalar depth t lines) :=
  inferInstanceAs (Decidable (∃ xs ∈ statements scalar depth [] lines, _))

/-- The value that a statement gives to a key of the table. -/
def givenTo (name : Name) : Statement σ → Option (Value σ)
  | .pair key v => if key = [name] then some v else none
  | _ => none

/-- The line says `key = value` by itself. -/
def SetsAlone (t : Target) (l : Text) : Prop :=
  ((lineStatement scalar depth l).join.bind (givenTo t.name)).isSome = true

instance (t : Target) (l : Text) : Decidable (SetsAlone scalar depth t l) :=
  inferInstanceAs (Decidable (_ = true))

/-- The first line of the key stands alone, or the key has no value. -/
def Settable (t : Target) (doc : List (Entry σ)) (lines : List Text) : Prop :=
  ∃ s ∈ sectionBounds lines t.title, Opens scalar depth t (s.cut t.key).1 ∧
    (∀ l ∈ (s.cut t.key).2.1, SetsAlone scalar depth t l) ∧
    ((s.cut t.key).2.1 = none → lookup doc t.path = none)

instance [DecidableEq σ] (t : Target) (doc : List (Entry σ)) (lines : List Text) :
    Decidable (Settable scalar depth t doc lines) :=
  inferInstanceAs (Decidable (∃ s ∈ sectionBounds lines t.title, _))

/-- The section has one line of the key, which stands alone, or no value. -/
def Removable (t : Target) (doc : List (Entry σ)) (lines : List Text) : Prop :=
  (∃ s ∈ sectionBounds lines t.title, ∃ l ∈ (s.cut t.key).2.1, s.body.filter (keyMatches t.key) = [l] ∧
    SetsAlone scalar depth t l ∧ Opens scalar depth t (s.cut t.key).1) ∨
  (∀ s ∈ sectionBounds lines t.title, s.body.filter (keyMatches t.key) = []) ∧ lookup doc t.path = none

instance [DecidableEq σ] (t : Target) (doc : List (Entry σ)) (lines : List Text) :
    Decidable (Removable scalar depth t doc lines) :=
  inferInstanceAs (Decidable (_ ∨ _))

variable {scalar depth} {t t' : Target} {text l : Text} {lines before olds news behind : List Text}
  {doc : List (Entry σ)}

lemma SetsAlone.reads (alone : SetsAlone scalar depth t l) :
    ∃ v, lineStatement scalar depth l = some (some (.pair [t.name] v)) := by
  obtain ⟨v, given⟩ := Option.isSome_iff_exists.1 alone
  obtain ⟨x, reads, given⟩ := Option.bind_eq_some_iff.1 given
  refine ⟨v, ?_⟩
  rw [Option.join_eq_some_iff.1 reads]
  cases x with
  | pair key w =>
    obtain ⟨rfl, same⟩ := Option.ite_none_right_eq_some.1 given
    rw [Option.some.inj same]
  | table key => cases given
  | array key => cases given

/-- Lines that are read as a key with its value, or as nothing. -/
def ReadsAs (scalar : List Char → Option σ) (depth : ℕ) (t : Target) (lines : List Text)
    (o : Option (Value σ)) : Prop :=
  statements scalar depth [] lines = some (o.map fun v => .pair [t.name] v).toList

lemma readsAs_line {v : Value σ} (reads : lineStatement scalar depth l = some (some (.pair [t.name] v))) :
    ReadsAs scalar depth t [l] (some v) :=
  statements_line reads

variable {old new : Option (Value σ)}

/-- An edit puts new lines for the key, if any, in the place of the old ones. -/
lemma replace_effect (opens : Opens scalar depth t before) (ne : t.table ≠ [])
    (isOld : ReadsAs scalar depth t olds old) (isNew : ReadsAs scalar depth t news new)
    {zs : List (Statement σ)}
    (whole : statements scalar depth [] (before ++ (olds ++ behind)) = some zs)
    (valid : Valid (build [] zs)) (unset : old = none → lookup (build [] zs) t.path = none) :
    ∃ zs', statements scalar depth [] (before ++ (news ++ behind)) = some zs' ∧ Valid (build [] zs') ∧
      Effect t (build [] zs) (build [] zs') new := by
  obtain ⟨xs, complete, header⟩ := opens
  obtain ⟨_, rest, rfl⟩ := exists_statements_append complete whole
  obtain ⟨ys, later, rfl⟩ := exists_statements_append isOld rest
  have isOpen : direct t.table ∈ opened [] xs := by
    cases headers : opened [] xs with
    | nil =>
      rw [headers] at header
      exact absurd (List.map_eq_nil_iff.1 header.symm) ne
    | cons p ps =>
      rw [headers] at header
      exact header ▸ List.mem_cons_self
  have opens : .opening t.table ∈ build [] (xs ++ ys) := by
    rw [build_append]
    exact List.mem_append_left _ ((mem_build_of_opened isOpen).resolve_left List.not_mem_nil)
  have valid : Valid (build [] (assign xs ys t.name old)) := valid
  have others : ∀ f ∈ build [] (xs ++ ys), ¬ t.path <+: f.path := by
    cases old with
    | none => exact fun f mem onWay => lookup_ne_none mem onWay (unset rfl)
    | some v =>
      rw [build_assign header] at valid
      rw [build_append]
      exact others_of_valid valid
  obtain ⟨valid', effect⟩ := assign_effect header opens valid others new
  refine ⟨_, ?_, valid', effect⟩
  rw [statements_append complete, statements_append isNew, later]
  rfl

/-- A key that is set changes no table that is open behind it. -/
lemma Opens.of_replace (opens : Opens scalar depth t before)
    (isOld : ReadsAs scalar depth t olds old) (isNew : ReadsAs scalar depth t news new)
    (opens' : Opens scalar depth t' (before ++ (olds ++ behind))) :
    Opens scalar depth t' (before ++ (news ++ behind)) := by
  obtain ⟨xs, complete, _⟩ := opens
  obtain ⟨_, whole, header⟩ := opens'
  obtain ⟨_, rest, rfl⟩ := exists_statements_append complete whole
  obtain ⟨ys, later, rfl⟩ := exists_statements_append isOld rest
  refine ⟨assign xs ys t.name new, ?_, ?_⟩
  · rw [Option.mem_def, statements_append complete, statements_append isNew, later]
    rfl
  · have same : opened [] (assign xs ys t.name old) = opened [] (xs ++ ys) := opened_assign t.name old
    rw [opened_assign, ← same]
    exact header

/-! ### Texts -/

lemma parse_intercalate (inner : ∀ l ∈ lines, ∀ c ∈ l, isBoundary c = false) :
    parse scalar depth (['\n'].intercalate (lines ++ [[]])) =
      (statements scalar depth [] lines).bind document := by
  have parts : (['\n'].intercalate (lines ++ [[]])).splitOn '\n' = lines ++ [[]] := by
    refine splitOnP_intercalate (beq_self_eq_true _)
      (List.append_ne_nil_of_right_ne_nil _ (List.cons_ne_nil _ _)) ?_
    refine List.forall_mem_append.2 ⟨?_, List.forall_mem_singleton.2 nofun⟩
    intro m mem c isChar
    rw [beq_eq_false_iff_ne]
    rintro rfl
    cases inner m mem _ isChar
  rw [parse, parts, statements_concat_blank rfl (.inl rfl)]

lemma parse_finish (plain : ∀ l ∈ lines, Plain l) :
    parse scalar depth (finish lines) = (statements scalar depth [] lines).bind document := by
  induction lines using List.reverseRecOn with
  | nil =>
    have blank : ∀ l ∈ [([] : Text)], ∀ c ∈ l, isBoundary c = false := List.forall_mem_singleton.2 nofun
    exact (parse_intercalate blank).trans (by rw [statements_line (lineStatement_blank rfl)]; rfl)
  | append_singleton lines l ih =>
    have blank := (plain l (by simp)).blank
    rw [finish_concat]
    split
    · next none =>
      rw [statements_concat_blank (blank ▸ none) (.inl rfl)]
      exact ih fun m mem => plain m (List.mem_append_left _ mem)
    · have same : trimEnd (rstrip l) = trimEnd l := by
        rw [blank]
        exact List.rdropWhile_idempotent _ l
      rw [parse_intercalate (inner_concat plain), statements_concat_congr same]

lemma PlainText.parse (plain : PlainText text) :
    Toml.parse scalar depth text = (statements scalar depth [] (splitlines text)).bind document := by
  rw [Toml.parse, plain.1, splitlines]
  split
  · next last =>
    obtain ⟨front, eq⟩ := List.getLast?_eq_some_iff.1 last
    rw [eq, statements_concat_blank rfl (.inl rfl), List.dropLast_concat]
  · rfl

lemma document_eq_some {xs : List (Statement σ)} :
    document xs = some doc ↔ Valid (build [] xs) ∧ build [] xs = doc := by
  rw [document, Option.ite_none_right_eq_some, Option.some_inj]

variable {value : Text} {v : Value σ}

/-- Setting a key changes this key only: the new lines, and what they say. -/
lemma set_lines (plain : PlainText text) (parsed : parse scalar depth text = some doc) (ne : t.table ≠ [])
    {s : Section} (found : sectionBounds (splitlines text) t.title = some s)
    (opens : Opens scalar depth t (s.cut t.key).1)
    (alone : ∀ l ∈ (s.cut t.key).2.1, SetsAlone scalar depth t l)
    (unset : (s.cut t.key).2.1 = none → lookup doc t.path = none)
    (assigns : lineStatement scalar depth (assignment t.key value) = some (some (.pair [t.name] v))) :
    ∃ old zs, ReadsAs scalar depth t (s.cut t.key).2.1.toList old ∧ statements scalar depth []
        ((s.cut t.key).1 ++ ([assignment t.key value] ++ (s.cut t.key).2.2)) = some zs ∧
      Valid (build [] zs) ∧ Effect t doc (build [] zs) (some v) := by
  rw [plain.parse] at parsed
  obtain ⟨zs, whole, parsed⟩ := Option.bind_eq_some_iff.1 parsed
  obtain ⟨valid, rfl⟩ := document_eq_some.1 parsed
  rw [(sectionBounds_eq_some.1 found).whole, s.withBody_cut t.key] at whole
  have isOld : ∃ old, ReadsAs scalar depth t (s.cut t.key).2.1.toList old ∧
      (old = none → (s.cut t.key).2.1 = none) := by
    cases first : (s.cut t.key).2.1 with
    | none => exact ⟨none, rfl, fun _ => rfl⟩
    | some l =>
      obtain ⟨w, reads⟩ := (alone l first).reads
      exact ⟨some w, readsAs_line reads, nofun⟩
  obtain ⟨old, isOld, none⟩ := isOld
  obtain ⟨zs', lines', valid', effect⟩ := replace_effect opens ne isOld (readsAs_line assigns) whole valid
    fun isNone => unset (none isNone)
  exact ⟨old, zs', isOld, lines', valid', effect⟩

lemma plain_set (plain : PlainText text) {s : Section}
    (found : sectionBounds (splitlines text) t.title = some s) (plainNew : Plain (assignment t.key value)) :
    ∀ l ∈ (s.cut t.key).1 ++ ([assignment t.key value] ++ (s.cut t.key).2.2), Plain l := by
  have whole := (sectionBounds_eq_some.1 found).whole
  rw [s.withBody_cut t.key] at whole
  intro l mem
  have old := plain.plain l
  rw [whole] at old
  simp only [List.mem_append, List.mem_singleton] at mem old
  obtain mem | rfl | mem := mem
  · exact old (.inl mem)
  · exact plainNew
  · exact old (.inr (.inr mem))

/-- Setting a key of a section changes this key only. -/
theorem set_effect (plain : PlainText text) (parsed : parse scalar depth text = some doc) (ne : t.table ≠ [])
    (settable : Settable scalar depth t doc (splitlines text))
    (assigns : lineStatement scalar depth (assignment t.key value) = some (some (.pair [t.name] v)))
    (plainNew : Plain (assignment t.key value)) :
    ∃ doc', parse scalar depth (setSectionKey text t.title t.key value) = some doc' ∧
      Effect t doc doc' (some v) := by
  obtain ⟨s, found, opens, alone, unset⟩ := settable
  obtain ⟨_, zs, _, lines', valid', effect⟩ := set_lines plain parsed ne found opens alone unset assigns
  refine ⟨build [] zs, ?_, effect⟩
  rw [setSectionKey, Option.mem_def.1 found]
  dsimp only
  rw [s.withBody_setKey, parse_finish (plain_set plain found plainNew), lines', Option.bind_some]
  exact document_eq_some.2 ⟨valid', rfl⟩

/-- The one line of a key that the pass leaves out. -/
structure Leaves (t : Target) (P : List Text) (l : Text) (Q : List Text) : Prop where
  front : Region.before.dropped t.title t.key P = []
  here : (P.foldl (Region.next t.title) .before).drops t.key l = true
  rear : ((P ++ [l]).foldl (Region.next t.title) .before).dropped t.title t.key Q = []

lemma Leaves.sweep {P Q : List Text} (leaves : Leaves t P l Q) :
    Region.before.sweep t.title t.key (P ++ l :: Q) = P ++ ([] ++ Q) := by
  have rear := leaves.rear
  rw [List.foldl_append, List.foldl_cons, List.foldl_nil] at rear
  rw [Region.sweep_append, Region.sweep_of_dropped leaves.front, Region.sweep, if_pos leaves.here,
    Region.sweep_of_dropped rear]

/-- A key that is set does not move the line of another key. -/
lemma Leaves.replace {P Q : List Text} (leaves : Leaves t' P l Q)
    (isKey : keyMatches t'.key l = true) (inert : ∀ m ∈ olds, Inert t'.key m)
    (inert' : ∀ m ∈ news, Inert t'.key m) (eq : before ++ (olds ++ behind) = P ++ l :: Q)
    (opens : Opens scalar depth t before) (isOld : ReadsAs scalar depth t olds old)
    (isNew : ReadsAs scalar depth t news new) (opens' : Opens scalar depth t' P) :
    ∃ P' Q', before ++ (news ++ behind) = P' ++ l :: Q' ∧ Leaves t' P' l Q' ∧
      Opens scalar depth t' P' := by
  obtain ⟨M, rfl, rfl⟩ | ⟨M, rfl, rfl⟩ := Inert.split inert isKey eq
  · refine ⟨P, M ++ (news ++ behind), by simp, ⟨leaves.front, leaves.here, ?_⟩, opens'⟩
    rw [← Inert.dropped_replace inert inert']
    exact leaves.rear
  · refine ⟨before ++ (news ++ M), Q, by simp, ⟨?_, ?_, ?_⟩, opens.of_replace isOld isNew opens'⟩
    · rw [← Inert.dropped_replace inert inert']
      exact leaves.front
    · rw [← Inert.foldl_replace inert inert']
      exact leaves.here
    · have rear := leaves.rear
      rw [List.foldl_append, Inert.foldl_replace inert inert', ← List.foldl_append] at rear
      exact rear

/-- Setting a key and then removing another one changes these two only. -/
theorem set_remove_effect (plain : PlainText text) (parsed : parse scalar depth text = some doc)
    (ne : t.table ≠ []) (ne' : t'.table ≠ []) (settable : Settable scalar depth t doc (splitlines text))
    (removable : Removable scalar depth t' doc (splitlines text)) (apart : ¬ t.path <+: t'.path)
    (inert : ∀ l, keyMatches t.key l = true → Inert t'.key l)
    (assigns : lineStatement scalar depth (assignment t.key value) = some (some (.pair [t.name] v)))
    (plainNew : Plain (assignment t.key value)) (inertNew : Inert t'.key (assignment t.key value)) :
    ∃ doc₁ doc₂, Effect t doc doc₁ (some v) ∧
      parse scalar depth (removeSectionKey (setSectionKey text t.title t.key value) t'.title t'.key) =
        some doc₂ ∧
      (∀ q, ¬ t'.path <+: q → lookup doc₂ q = lookup doc₁ q) ∧ lookup doc₂ t'.path = none := by
  obtain ⟨s, found, opens, alone, unset⟩ := settable
  obtain ⟨old, zs, isOld, lines', valid', effect⟩ :=
    set_lines plain parsed ne found opens alone unset assigns
  have plain' := plain_set plain found plainNew
  have whole := (sectionBounds_eq_some.1 found).whole
  rw [s.withBody_cut t.key] at whole
  have inertOld : ∀ m ∈ (s.cut t.key).2.1.toList, Inert t'.key m := fun m mem =>
    inert m (Section.keyMatches_of_cut (Option.mem_toList.1 mem))
  have inertNew : ∀ m ∈ [assignment t.key value], Inert t'.key m := List.forall_mem_singleton.2 inertNew
  rw [setSectionKey, Option.mem_def.1 found]
  dsimp only
  rw [s.withBody_setKey, removeSectionKey_finish plain']
  have read : ∀ {L : List Text} {ws : List (Statement σ)},
      (∀ l ∈ L, l ∈ (s.cut t.key).1 ++ ([assignment t.key value] ++ (s.cut t.key).2.2)) →
      statements scalar depth [] L = some ws → Valid (build [] ws) →
      parse scalar depth (finish L) = some (build [] ws) := by
    intro L ws sub reads valid
    rw [parse_finish fun l mem => plain' l (sub l mem), reads, Option.bind_some]
    exact document_eq_some.2 ⟨valid, rfl⟩
  obtain ⟨s', found', l, isLine, once, sets, opens'⟩ | ⟨none, unset'⟩ := removable
  · have bounds' := sectionBounds_eq_some.1 (Option.mem_def.1 found')
    obtain ⟨front, here, rear⟩ := bounds'.dropped_cut (Option.mem_def.1 isLine) once
    have split := bounds'.whole
    rw [s'.withBody_cut t'.key, Option.mem_def.1 isLine, whole] at split
    obtain ⟨P, Q, split, leaves, opens'⟩ := Leaves.replace ⟨front, here, rear⟩
      (Section.keyMatches_of_cut isLine) inertOld inertNew split opens isOld (readsAs_line assigns) opens'
    obtain ⟨w, reads⟩ := sets.reads
    rw [split] at lines' read
    have nothing : ReadsAs scalar depth t' [] none := rfl
    obtain ⟨ws, lines₂, valid₂, others, gone⟩ := replace_effect opens' ne' (readsAs_line reads) nothing lines'
      valid' nofun
    refine ⟨_, _, effect, ?_, others, by simpa using gone []⟩
    rw [split, leaves.sweep]
    exact read (fun m mem => by simp only [List.mem_append, List.nil_append, List.mem_cons] at mem ⊢; tauto)
      lines₂ valid₂
  · have nothing : Region.before.dropped t'.title t'.key (splitlines text) = [] := by
      cases isSection : sectionBounds (splitlines text) t'.title with
      | some s' => rw [(sectionBounds_eq_some.1 isSection).dropped, none s' isSection]
      | none =>
        rw [sectionBounds] at isSection
        split at isSection
        · next all =>
          exact (Region.foldl_before t'.key (by simpa using List.dropWhile_eq_nil_iff.1 all)).2
        · cases isSection
    rw [whole, Inert.dropped_replace inertOld inertNew] at nothing
    refine ⟨_, _, effect, ?_, fun _ _ => rfl, (effect.1 _ apart).trans unset'⟩
    rw [Region.sweep_of_dropped nothing]
    exact read (fun _ mem => mem) lines' valid'

end Effects

end Rvpn.Builder
