import Mathlib.Tactic.Common

/-!
# Texts as bytes

The bytes of a text in UTF-8 and the text of bytes, over lists. A byte below 128 occurs in the bytes of
a text only as the character of that code, so a text can be cut at such a byte.
-/

namespace Rvpn

def utf8 (text : String) : List UInt8 :=
  text.toList.flatMap String.utf8EncodeChar

/-- The text of bytes that are valid. -/
def fromUtf8 (bytes : List UInt8) : Option String :=
  bytes.toByteArray.utf8Decode?.map fun cs => String.ofList cs.toList

lemma fromUtf8_utf8 (text : String) : fromUtf8 (utf8 text) = some text := by
  rw [fromUtf8, utf8, ← List.utf8Encode.eq_1, List.utf8Decode?_utf8Encode]
  simp

lemma ascii_of_mem_utf8EncodeChar {c : Char} {b : UInt8} (ascii : b.toNat < 128)
    (mem : b ∈ String.utf8EncodeChar c) : c.toNat = b.toNat := by
  have large : ∀ n, 128 ≤ n → n < 256 → b ≠ UInt8.ofNat n := by
    rintro n low high rfl
    rw [UInt8.toNat_ofNat_of_lt' high] at ascii
    omega
  simp only [String.utf8EncodeChar] at mem
  split at mem
  · next small =>
    have small : c.toNat ≤ 127 := small
    rw [List.mem_singleton] at mem
    subst mem
    exact (UInt8.toNat_ofNat_of_lt' (show c.toNat < 256 by omega)).symm
  · -- the bytes of a longer character are all 128 or more
    have none : ∀ bytes : List UInt8, (∀ x ∈ bytes, ∃ n, 128 ≤ n ∧ n < 256 ∧ x = UInt8.ofNat n) →
        b ∉ bytes := by
      intro bytes all mem
      obtain ⟨n, low, high, eq⟩ := all b mem
      exact large n low high eq
    refine absurd mem (none _ ?_)
    split
    · simp only [List.forall_mem_cons, List.not_mem_nil, false_implies, implies_true, and_true]
      exact ⟨⟨_, by omega, by omega, rfl⟩, ⟨_, by omega, by omega, rfl⟩⟩
    · split
      · simp only [List.forall_mem_cons, List.not_mem_nil, false_implies, implies_true, and_true]
        exact ⟨⟨_, by omega, by omega, rfl⟩, ⟨_, by omega, by omega, rfl⟩,
          ⟨_, by omega, by omega, rfl⟩⟩
      · simp only [List.forall_mem_cons, List.not_mem_nil, false_implies, implies_true, and_true]
        exact ⟨⟨_, by omega, by omega, rfl⟩, ⟨_, by omega, by omega, rfl⟩,
          ⟨_, by omega, by omega, rfl⟩, ⟨_, by omega, by omega, rfl⟩⟩

lemma ascii_of_mem_utf8 {text : String} {b : UInt8} (ascii : b.toNat < 128) (mem : b ∈ utf8 text) :
    Char.ofNat b.toNat ∈ text.toList := by
  obtain ⟨c, listed, mem⟩ := List.mem_flatMap.1 mem
  rw [← ascii_of_mem_utf8EncodeChar ascii mem, Char.ofNat_toNat]
  exact listed

end Rvpn
