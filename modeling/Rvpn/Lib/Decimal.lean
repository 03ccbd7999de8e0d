import Mathlib.Tactic.Common

/-!
# Decimal numerals

Numbers written in decimal digits, with leading zeros up to a width or without, and the reading of
such texts into the unsigned and signed types of a machine: an optional sign, at least one digit and
nothing else, and a value within the bound of the type.
-/

namespace Rvpn.Decimal

def text (n : Nat) : List Char :=
  Nat.toDigits 10 n

/-- The digits of a number with leading zeros, `width` characters at least. -/
def padded (width n : Nat) : List Char :=
  List.replicate (width - (text n).length) '0' ++ text n

def paddedInt (width : Nat) (n : Int) : List Char :=
  if n < 0 then '-' :: padded (width - 1) n.natAbs else padded width n.natAbs

def digits? (cs : List Char) : Option Nat :=
  if cs ≠ [] ∧ cs.all Char.isDigit then some (Nat.ofDigitChars 10 cs 0) else none

def stripPlus : List Char → List Char
  | '+' :: cs => cs
  | cs => cs

def parseNat (bound : Nat) (cs : List Char) : Option Nat :=
  (digits? (stripPlus cs)).filter (· ≤ bound)

def parseInt (bound : Nat) : List Char → Option Int
  | '-' :: cs => ((digits? cs).filter (· ≤ bound + 1)).map fun n => -(n : Int)
  | cs => (parseNat bound cs).map Int.ofNat

lemma padded_zero (n : Nat) : padded 0 n = text n := by
  simp [padded]

lemma isDigit_of_mem_padded {width n : Nat} {c : Char} (mem : c ∈ padded width n) : c.isDigit := by
  rcases List.mem_append.1 mem with zero | digit
  · rw [List.eq_of_mem_replicate zero]
    rfl
  · exact Nat.isDigit_of_mem_toDigits (by decide) (by decide) digit

lemma padded_ne_nil (width n : Nat) : padded width n ≠ [] := by
  simp [padded, text, Nat.toDigits_ne_nil]

lemma digits?_padded (width n : Nat) : digits? (padded width n) = some n := by
  have digits : (padded width n).all Char.isDigit := by
    rw [List.all_eq_true]
    exact fun c mem => isDigit_of_mem_padded mem
  rw [digits?, if_pos ⟨padded_ne_nil width n, digits⟩, padded, Nat.ofDigitChars_append,
    Nat.ofDigitChars_replicate_zero, Nat.mul_zero, text, Nat.ofDigitChars_ten_toDigits]

lemma exists_padded_eq_cons (width n : Nat) : ∃ c cs, padded width n = c :: cs ∧ c.isDigit := by
  obtain ⟨c, cs, eq⟩ := List.exists_cons_of_ne_nil (padded_ne_nil width n)
  exact ⟨c, cs, eq, isDigit_of_mem_padded (by rw [eq]; exact List.mem_cons_self)⟩

lemma stripPlus_padded (width n : Nat) : stripPlus (padded width n) = padded width n := by
  obtain ⟨c, cs, eq, digit⟩ := exists_padded_eq_cons width n
  rw [eq]
  unfold stripPlus
  split
  · next plus =>
    rw [(List.cons.inj plus).1] at digit
    cases digit
  · rfl

lemma parseNat_padded {bound width n : Nat} (le : n ≤ bound) :
    parseNat bound (padded width n) = some n := by
  rw [parseNat, stripPlus_padded, digits?_padded]
  simp [le]

lemma parseInt_padded {bound width n : Nat} (le : n ≤ bound) :
    parseInt bound (padded width n) = some (n : Int) := by
  obtain ⟨c, cs, eq, digit⟩ := exists_padded_eq_cons width n
  have unsigned : parseNat bound (padded width n) = some n := parseNat_padded le
  rw [eq] at unsigned ⊢
  unfold parseInt
  split
  · next minus =>
    rw [(List.cons.inj minus).1] at digit
    cases digit
  · rw [unsigned]
    rfl

end Rvpn.Decimal
