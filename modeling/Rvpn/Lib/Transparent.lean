import Mathlib.Data.Sym.Sym2
import Rvpn.Lib.Primitives

/-!
# Transparent primitives

An instance of the primitives in which everything can be computed by hand: a digest is the hashed
string itself, a shared secret the pair of the two public keys, a derived key the triple it was
derived from. It is ideal and correct, and hides nothing; concrete runs are evaluated with it.
-/

namespace Rvpn.Primitives

def byteSum (l : List UInt8) : UInt8 :=
  l.foldl (· + ·) 0

/-- The transparent tag: nonce and the sums of label and associated data. -/
def transparentTag (label : List UInt8) (n : Bytes 12) (a : List UInt8) : List UInt8 :=
  n.toList ++ [byteSum label, byteSum a, 0, 0]

def transparent : Primitives where
  Digest := List UInt8
  Shared := Sym2 (Bytes 32)
  Key := List UInt8 × Sym2 (Bytes 32) × List UInt8
  sha256 := id
  digestBytes := Bytes.ofList 32
  hmac := fun key m => Bytes.ofList 32 [byteSum key.toList, byteSum m]
  keystream := fun key n i => byteSum key.toList + byteSum n.toList + UInt8.ofNat i
  hkdf := fun d s i => some (d, s, i)
  dhPublic := id
  dh := fun x y => some s(x, y)
  edPublic := id
  edSign := fun seed m => Bytes.ofList 64 (seed.toList ++ m.take 31 ++ [byteSum m])
  edVerify := fun pub m sig =>
    decide (sig = Bytes.ofList 64 (pub.toList ++ m.take 31 ++ [byteSum m]))
  aeadSeal := fun k n a m => some (m ++ transparentTag k.2.2 n a)
  aeadOpen := fun k n a c =>
    if 16 ≤ c.length ∧ c.drop (c.length - 16) = transparentTag k.2.2 n a then
      some (c.take (c.length - 16))
    else none
  aeadSeal_length := by
    intro k n a m c h
    cases h
    simp [transparentTag]

lemma transparent_ideal : transparent.Ideal := by
  refine ⟨fun h => h, ?_, ?_, ?_⟩
  · intro d s i d' s' i' k h h'
    cases h
    cases h'
    exact ⟨rfl, rfl, rfl⟩
  · intro a b
    exact congrArg some Sym2.eq_swap
  · intro a b x y s h h'
    cases h
    have eq : s(x, y) = s(a, b) := Option.some.inj h'
    cases Sym2.eq_iff.1 eq with
    | inl h => exact .inl h.1
    | inr h => exact .inr h.1

lemma transparent_correct : transparent.Correct := by
  refine ⟨fun d s i => ⟨_, rfl⟩, transparent_ideal.dh_comm, ?_, ?_, fun k n a m => ⟨_, rfl⟩⟩
  · intro seed m
    exact decide_eq_true rfl
  · intro k n a m c h
    cases h
    have tag : (transparentTag k.2.2 n a).length = 16 := by simp [transparentTag]
    simp [transparent, tag]

/-- A transparent signature names its signer. -/
lemma transparent_verify_only {k seed : Bytes 32} {m : List UInt8}
    (h : transparent.edVerify k m (transparent.edSign seed m) = true) : k = seed := by
  have eq := of_decide_eq_true h
  have bytes := congrArg (fun sig : Bytes 64 => sig.toList.take 32) eq
  simp only [transparent, List.append_assoc] at bytes
  rw [Bytes.take_ofList (by decide), Bytes.take_ofList (by decide)] at bytes
  exact (Bytes.toList_inj.1 bytes).symm

end Rvpn.Primitives
