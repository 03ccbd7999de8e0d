import Mathlib.Data.List.DropRight
import Rvpn.Lib.Toml.Document

/-!
# The syntax of TOML

A parser for TOML 1.0. How the scalars other than strings are read is a parameter `scalar` on their
text, and so is the `depth` to which arrays and inline tables may be nested. A text is read line by
line: a statement goes on until a line completes it, so lines that are complete are read by themselves
(`statements_append`).
-/

namespace Rvpn.Toml

abbrev Text := List Char

/-- A parser: what is read from the front, and the rest. -/
abbrev Reads (α : Type) := StateT Text Option α

section Reads
variable {τ α β : Type}

def item : Reads Char
  | [] => none
  | c :: s => some (c, s)

def many (test : Char → Bool) : Reads Text :=
  fun s => some (s.takeWhile test, s.dropWhile test)

/-- If the next character satisfies `test`, read it and go on with `yes`. -/
def ifNext (test : Char → Bool) (yes : Char → Reads α) (no : Reads α) : Reads α
  | [] => no []
  | c :: s => if test c then yes c s else no (c :: s)

/-- If the next character is `c`, read it and go on with `yes`. -/
def upon (c : Char) (yes no : Reads α) : Reads α :=
  ifNext (· == c) (fun _ => yes) no

def char (c : Char) : Reads Unit :=
  upon c (pure ()) failure

/-- Read character after character with a state until there is a result. -/
def scan (step : τ → Char → Option (τ ⊕ α)) : τ → Reads α
  | _, [] => none
  | t, c :: s => (step t c).bind (Sum.elim (fun t => scan step t s) fun a => some (a, s))

/-- The loop of `iterate`, with fuel. -/
def rounds (step : τ → Reads (τ ⊕ α)) : ℕ → τ → Reads α
  | 0, _ => failure
  | n + 1, t => do
    let result ← step t
    match result with
    | .inl t => rounds step n t
    | .inr a => pure a

/-- Repeat a parser until there is a result; each round takes a character. -/
def iterate (step : τ → Reads (τ ⊕ α)) (t : τ) : Reads α :=
  fun s => rounds step (s.length + 1) t s

lemma run_bind {p : Reads α} {f : α → Reads β} {s t : Text} {a : α} (first : p.run s = some (a, t)) :
    (p >>= f).run s = (f a).run t := by
  change (p.run s).bind _ = _
  rw [first]
  rfl

lemma run_upon_self {c : Char} {yes no : Reads α} (s : Text) : (upon c yes no).run (c :: s) = yes.run s :=
  if_pos (beq_self_eq_true c)

lemma run_upon_other {c d : Char} {yes no : Reads α} (s : Text) (other : (d == c) = false) :
    (upon c yes no).run (d :: s) = no.run (d :: s) :=
  if_neg (ne_of_eq_of_ne other Bool.false_ne_true)

section Scan
variable {step : τ → Char → Option (τ ⊕ α)} {t t' : τ} {c : Char} {a : α}

lemma run_scan_cons (s : Text) (stepped : step t c = some (.inl t')) :
    (scan step t).run (c :: s) = (scan step t').run s := by
  change (step t c).bind _ = _
  rw [stepped]
  rfl

lemma run_scan_last (s : Text) (stepped : step t c = some (.inr a)) :
    (scan step t).run (c :: s) = some (a, s) := by
  change (step t c).bind _ = _
  rw [stepped]
  rfl

end Scan

section Iterate
variable {step : τ → Reads (τ ⊕ α)} {t t' : τ} {s r rest : Text} {a : α}

lemma run_iterate_last (last : (step t).run s = some (.inr a, r)) : (iterate step t).run s = some (a, r) :=
  run_bind last

lemma rounds_mono {n m : ℕ} (le : n ≤ m) (read : (rounds step n t).run s = some (a, r)) :
    (rounds step m t).run s = some (a, r) := by
  induction n generalizing m t s with
  | zero => cases read
  | succ n ih =>
    cases m with
    | zero => exact absurd le (Nat.not_succ_le_zero n)
    | succ m =>
      obtain ⟨⟨result, rest⟩, first, later⟩ := Option.bind_eq_some_iff.1 read
      refine (run_bind first).trans ?_
      cases result with
      | inl t' => exact ih (Nat.le_of_succ_le_succ le) later
      | inr b => exact later

lemma run_iterate_next (first : (step t).run s = some (.inl t', rest)) (shorter : rest.length < s.length)
    (later : (iterate step t').run rest = some (a, r)) : (iterate step t).run s = some (a, r) :=
  (run_bind first).trans (rounds_mono shorter later)

end Iterate
end Reads

def isBlank (c : Char) : Bool :=
  c == ' ' || c == '\t'

/-- No control character but the tab. -/
def isLegal (c : Char) : Bool :=
  c == '\t' || (decide (0x20 ≤ c.toNat) && c.toNat != 0x7f)

def isBare (c : Char) : Bool :=
  c.isAlphanum || c == '-' || c == '_'

def isScalarChar (c : Char) : Bool :=
  c.isAlphanum || c == '+' || c == '-' || c == '_' || c == '.' || c == ':'

def hexValue (c : Char) : Option ℕ :=
  if c.isDigit then some (c.toNat - '0'.toNat)
  else if 'a' ≤ c ∧ c ≤ 'f' then some (c.toNat - 'a'.toNat + 10)
  else if 'A' ≤ c ∧ c ≤ 'F' then some (c.toNat - 'A'.toNat + 10)
  else none

inductive Mode where
  /-- right behind the opening quotes -/
  | start
  /-- in the text, behind some quotes in a row -/
  | text (quotes : ℕ)
  /-- behind a backslash -/
  | escape
  /-- in a numeric escape, with the digits left and the value so far -/
  | unicode (left code : ℕ)
  /-- behind a backslash and white space, which a newline has to follow -/
  | toNewline
  /-- in the white space behind a backslash and a newline -/
  | trim
  deriving DecidableEq

def textStep (quote : Char) (multiline : Bool) (sofar : List Char) (quotes : ℕ) (c : Char) :
    Option ((List Char × Mode) ⊕ List Char) :=
  if c = quote then
    if multiline && quotes != 2 then some (.inl (sofar, .text (quotes + 1))) else some (.inr sofar)
  else if quote = '"' ∧ c = '\\' then
    some (.inl (sofar ++ List.replicate quotes quote, .escape))
  else if isLegal c || (multiline && c == '\n') then
    some (.inl (sofar ++ List.replicate quotes quote ++ [c], .text 0))
  else none

def escapeStep (multiline : Bool) (sofar : List Char) (c : Char) : Option (List Char × Mode) :=
  if c = 'b' then some (sofar ++ [Char.ofNat 8], .text 0)
  else if c = 't' then some (sofar ++ ['\t'], .text 0)
  else if c = 'n' then some (sofar ++ ['\n'], .text 0)
  else if c = 'f' then some (sofar ++ [Char.ofNat 12], .text 0)
  else if c = 'r' then some (sofar ++ ['\r'], .text 0)
  else if c = '"' ∨ c = '\\' then some (sofar ++ [c], .text 0)
  else if c = 'u' then some (sofar, .unicode 4 0)
  else if c = 'U' then some (sofar, .unicode 8 0)
  else if multiline && c == '\n' then some (sofar, .trim)
  else if multiline && isBlank c then some (sofar, .toNewline)
  else none

def unicodeStep (sofar : List Char) (left code : ℕ) (c : Char) : Option (List Char × Mode) :=
  (hexValue c).bind fun digit =>
    let code := code * 16 + digit
    if left ≠ 1 then some (sofar, .unicode (left - 1) code)
    else if code < 0xd800 ∨ 0xdfff < code ∧ code < 0x110000 then
      some (sofar ++ [Char.ofNat code], .text 0)
    else none

def stringStep (quote : Char) (multiline : Bool) (s : List Char × Mode) (c : Char) :
    Option ((List Char × Mode) ⊕ List Char) :=
  match s.2 with
  | .start =>
    if multiline && c == '\n' then some (.inl (s.1, .text 0)) else textStep quote multiline s.1 0 c
  | .text quotes => textStep quote multiline s.1 quotes c
  | .escape => (escapeStep multiline s.1 c).map .inl
  | .unicode left code => (unicodeStep s.1 left code c).map .inl
  | .toNewline =>
    if c = '\n' then some (.inl (s.1, .trim))
    else if isBlank c then some (.inl (s.1, .toNewline))
    else none
  | .trim =>
    if c = '\n' ∨ isBlank c then some (.inl (s.1, .trim)) else textStep quote multiline s.1 0 c

def blanks : Reads Unit := do
  let _ ← many isBlank
  pure ()

def comment : Reads Unit :=
  upon '#' (do let _ ← many isLegal; pure ()) (pure ())

/-- A string on one line, behind its quote. -/
def oneLine (quote : Char) : Reads (List Char) :=
  scan (stringStep quote false) ([], .text 0)

/-- A string behind its first quote; two quotes may precede the closing ones. -/
def quoted (quote : Char) : Reads (List Char) :=
  upon quote
    (upon quote
      (do
        let text ← scan (stringStep quote true) ([], .start)
        upon quote (upon quote (pure (text ++ [quote, quote])) (pure (text ++ [quote])))
          (pure text))
      (pure []))
    (oneLine quote)

def keyPart (c : Char) : Reads Name :=
  if isBare c then do
    let cs ← many isBare
    pure (c :: cs)
  else if c = '"' ∨ c = '\'' then oneLine c
  else failure

/-- One part of a key, behind the parts so far and its first character. -/
def keyStep (sofar : Key × Char) : Reads ((Key × Char) ⊕ Key) := do
  let part ← keyPart sofar.2
  blanks
  upon '.'
    (do
      blanks
      let c ← item
      pure (.inl (sofar.1 ++ [part], c)))
    (pure (.inr (sofar.1 ++ [part])))

def key (c : Char) : Reads Key :=
  iterate keyStep ([], c)

def isDate : List Char → Bool
  | [y₁, y₂, y₃, y₄, '-', m₁, m₂, '-', d₁, d₂] => [y₁, y₂, y₃, y₄, m₁, m₂, d₁, d₂].all Char.isDigit
  | _ => false

/-- A scalar that starts with `c`; a time may follow a date and a space. -/
def scalarToken (c : Char) : Reads (List Char) := do
  let cs ← many isScalarChar
  if isDate (c :: cs) then
    upon ' '
      (ifNext Char.isDigit
        (fun d => do
          let ds ← many isScalarChar
          pure (c :: cs ++ ' ' :: d :: ds))
        (pure (c :: cs)))
      (pure (c :: cs))
  else pure (c :: cs)

/-- White space, newlines and comments within an array. -/
def triviaStep (inComment : Bool) (c : Char) : Option (Bool ⊕ Char) :=
  if inComment then
    if c = '\n' then some (.inl false) else if isLegal c then some (.inl true) else none
  else if isBlank c || c == '\n' then some (.inl false)
  else if c = '#' then some (.inl true)
  else some (.inr c)

/-- The next character within an array. -/
def token : Reads Char :=
  scan triviaStep false

section Values
variable {σ : Type} (scalar : List Char → Option σ)

def element (inner : Char → Reads (Value σ)) (sofar : List (Value σ)) :
    Reads (List (Value σ) ⊕ List (Value σ)) := do
  let c ← token
  if c = ']' then pure (.inr sofar)
  else do
    let v ← inner c
    let d ← token
    if d = ']' then pure (.inr (sofar ++ [v]))
    else if d = ',' then pure (.inl (sofar ++ [v]))
    else failure

/-- One entry of an inline table, behind those so far. -/
def entry (inner : Char → Reads (Value σ)) (sofar : List (Key × Value σ) × Char) :
    Reads ((List (Key × Value σ) × Char) ⊕ List (Key × Value σ)) := do
  let k ← key sofar.2
  char '='
  blanks
  let c ← item
  let v ← inner c
  blanks
  let d ← item
  if d = '}' then pure (.inr (sofar.1 ++ [(k, v)]))
  else if d = ',' then do
    blanks
    let e ← item
    pure (.inl (sofar.1 ++ [(k, v)], e))
  else failure

def value : ℕ → Char → Reads (Value σ)
  | 0, _ => failure
  | depth + 1, c =>
    if c = '"' then do
      let text ← quoted '"'
      pure { root := .str text }
    else if c = '\'' then do
      let text ← quoted '\''
      pure { root := .str text }
    else if c = '[' then do
      let values ← iterate (element (value depth)) []
      pure (Value.array values)
    else if c = '{' then do
      blanks
      let d ← item
      let entries ← if d = '}' then pure [] else iterate (entry (value depth)) ([], d)
      liftM (Value.table entries)
    else if isScalarChar c then do
      let text ← scalarToken c
      let x ← scalar text
      pure { root := .scalar x }
    else failure

variable (depth : ℕ)

def pairStatement (c : Char) : Reads (Statement σ) := do
  let k ← key c
  char '='
  blanks
  let d ← item
  let v ← value scalar depth d
  pure (.pair k v)

def headerStatement : Reads (Statement σ) :=
  upon '['
    (do
      blanks
      let c ← item
      let k ← key c
      char ']'
      char ']'
      pure (.array k))
    (do
      blanks
      let c ← item
      let k ← key c
      char ']'
      pure (.table k))

def statement (c : Char) : Reads (Option (Statement σ)) := do
  let x ← if c = '[' then headerStatement else pairStatement scalar depth c
  pure (some x)

/-- A statement, if any, with white space and comment. -/
def line : Reads (Option (Statement σ)) := do
  blanks
  let x ← ifNext (fun c => c != '\n' && c != '#') (statement scalar depth) (pure none)
  blanks
  comment
  pure x

/-- A text without the white space at its end. -/
def trimEnd (s : Text) : Text :=
  s.rdropWhile fun c => isBlank c || c == '\n'

/-- The statement that lines make up, without white space at their end. -/
def lineStatement (l : Text) : Option (Option (Statement σ)) :=
  ((line scalar depth).run (trimEnd l)).bind fun read => if read.2.isEmpty then some read.1 else none

/-- The statements of lines, with the lines not yet a statement. -/
def statements : Text → List Text → Option (List (Statement σ))
  | begun, [] => if begun = [] then some [] else none
  | begun, l :: lines =>
    match lineStatement scalar depth (begun ++ l) with
    | some x => (statements [] lines).map (x.toList ++ ·)
    | none => statements (begun ++ l ++ ['\n']) lines

def document (xs : List (Statement σ)) : Option (List (Entry σ)) :=
  if Valid (build [] xs) then some (build [] xs) else none

def parse (text : Text) : Option (List (Entry σ)) :=
  (statements scalar depth [] (text.splitOn '\n')).bind document

variable {scalar depth}

lemma rdropWhile_append {α : Type} (p : α → Bool) (s t : List α) :
    (s ++ t).rdropWhile p = if t.rdropWhile p = [] then s.rdropWhile p else s ++ t.rdropWhile p := by
  rw [List.rdropWhile, List.reverse_append, List.dropWhile_append]
  simp only [List.isEmpty_iff, List.rdropWhile, List.reverse_eq_nil_iff]
  split
  · rfl
  · rw [List.reverse_append, List.reverse_reverse]

variable {l l' begun : Text}

lemma trimEnd_append_congr (same : trimEnd l = trimEnd l') (s : Text) :
    trimEnd (s ++ l) = trimEnd (s ++ l') := by
  rw [trimEnd, trimEnd, rdropWhile_append, rdropWhile_append]
  change (if trimEnd l = [] then _ else s ++ trimEnd l) = if trimEnd l' = [] then _ else s ++ trimEnd l'
  rw [same]

lemma trimEnd_append_blank (blank : trimEnd l = []) (s : Text) : trimEnd (s ++ l) = trimEnd s := by
  have same : trimEnd l = trimEnd [] := blank
  rw [trimEnd_append_congr same, List.append_nil]

lemma lineStatement_congr (same : trimEnd l = trimEnd l') :
    lineStatement scalar depth l = lineStatement scalar depth l' := by
  rw [lineStatement, lineStatement, same]

lemma lineStatement_blank (blank : trimEnd l = []) : lineStatement scalar depth l = some none := by
  rw [lineStatement, blank]
  rfl

lemma statements_cons_some {x : Option (Statement σ)}
    (reads : lineStatement scalar depth (begun ++ l) = some x) (A : List Text) :
    statements scalar depth begun (l :: A) = (statements scalar depth [] A).map (x.toList ++ ·) := by
  rw [statements, reads]

lemma statements_cons_none (reads : lineStatement scalar depth (begun ++ l) = none) (A : List Text) :
    statements scalar depth begun (l :: A) = statements scalar depth (begun ++ l ++ ['\n']) A := by
  rw [statements, reads]

/-- Lines that are complete are read by themselves. -/
lemma statements_append {A : List Text} {xs : List (Statement σ)}
    (complete : statements scalar depth begun A = some xs) (B : List Text) :
    statements scalar depth begun (A ++ B) = (statements scalar depth [] B).map (xs ++ ·) := by
  induction A generalizing begun xs with
  | nil =>
    rw [statements] at complete
    split at complete
    · next none =>
      cases complete
      rw [none, List.nil_append]
      exact Option.map_id'.symm
    · cases complete
  | cons l A ih =>
    rw [List.cons_append]
    cases reads : lineStatement scalar depth (begun ++ l) with
    | none =>
      rw [statements_cons_none reads] at complete ⊢
      exact ih complete
    | some x =>
      rw [statements_cons_some reads] at complete ⊢
      obtain ⟨ys, rest, rfl⟩ := Option.map_eq_some_iff.1 complete
      rw [ih rest, Option.map_map]
      congr 1
      funext zs
      exact (List.append_assoc _ _ _).symm

lemma exists_statements_append {A B : List Text} {xs zs : List (Statement σ)}
    (complete : statements scalar depth [] A = some xs)
    (whole : statements scalar depth [] (A ++ B) = some zs) :
    ∃ ys, statements scalar depth [] B = some ys ∧ zs = xs ++ ys := by
  rw [statements_append complete] at whole
  obtain ⟨ys, rest, rfl⟩ := Option.map_eq_some_iff.1 whole
  exact ⟨ys, rest, rfl⟩

lemma statements_line {x : Option (Statement σ)} (reads : lineStatement scalar depth l = some x) :
    statements scalar depth [] [l] = some x.toList := by
  rw [statements, List.nil_append, reads]
  exact congrArg some (List.append_nil _)

/-- White space at the end of the last line does not matter. -/
lemma statements_concat_congr (same : trimEnd l = trimEnd l') (begun : Text) (A : List Text) :
    statements scalar depth begun (A ++ [l]) = statements scalar depth begun (A ++ [l']) := by
  induction A generalizing begun with
  | nil =>
    simp only [List.nil_append, statements, lineStatement_congr (trimEnd_append_congr same begun)]
    split
    · rfl
    · rw [if_neg (by simp), if_neg (by simp)]
  | cons m A ih => simp only [List.cons_append, statements, ih]

/-- A blank last line does not matter. -/
lemma statements_concat_blank (blank : trimEnd l = [])
    (incomplete : begun = [] ∨ lineStatement scalar depth begun = none) (A : List Text) :
    statements scalar depth begun (A ++ [l]) = statements scalar depth begun A := by
  induction A generalizing begun with
  | nil =>
    obtain rfl | none := incomplete
    · exact statements_line (lineStatement_blank blank)
    · have more : begun ≠ [] := by
        rintro rfl
        cases none
      simp only [List.nil_append, statements, lineStatement_congr (trimEnd_append_blank blank begun), none,
        if_neg more]
      exact if_neg (by simp)
  | cons m A ih =>
    rw [List.cons_append]
    cases reads : lineStatement scalar depth (begun ++ m) with
    | some x => rw [statements_cons_some reads, statements_cons_some reads, ih (.inl rfl)]
    | none =>
      rw [statements_cons_none reads, statements_cons_none reads]
      refine ih (.inr ?_)
      rw [lineStatement_congr (trimEnd_append_blank (by decide) _), reads]

end Values
end Rvpn.Toml
