import Mathlib.Data.Vector.Basic

/-!
# Byte strings

Fixed-length byte arrays (`Bytes n`, Mathlib's `List.Vector`) and the big-endian encoding of natural
numbers, with the injectivity facts that wire formats need.
-/

namespace Rvpn

abbrev Bytes (n : Nat) := List.Vector UInt8 n

namespace Bytes

def zero (n : Nat) : Bytes n :=
  List.Vector.replicate n 0

/-- The first `n` bytes, padded with zeros: a copy into a zeroed array. -/
def ofList (n : Nat) (l : List UInt8) : Bytes n :=
  ⟨(l ++ List.replicate n 0).take n, by simp⟩

@[simp] lemma toList_ofList {n : Nat} {l : List UInt8} (h : l.length = n) :
    (ofList n l).toList = l := by
  subst h
  simp [ofList, List.Vector.toList]

@[simp] lemma ofList_toList {n : Nat} (v : Bytes n) : ofList n v.toList = v :=
  List.Vector.toList_injective (toList_ofList v.toList_length)

lemma toList_ofList_take {n : Nat} {l : List UInt8} (h : n ≤ l.length) :
    (ofList n (l.take n)).toList = l.take n := by
  apply toList_ofList
  rw [List.length_take, Nat.min_eq_left h]

lemma toList_inj {n : Nat} {v w : Bytes n} : v.toList = w.toList ↔ v = w :=
  List.Vector.toList_injective.eq_iff

lemma take_ofList {n i : Nat} (h : i ≤ n) (v : Bytes i) (l : List UInt8) :
    (ofList n (v.toList ++ l)).toList.take i = v.toList := by
  change ((v.toList ++ l ++ List.replicate n 0).take n).take i = v.toList
  rw [List.take_take, Nat.min_eq_left h, List.append_assoc, List.take_left' (by simp)]

end Bytes

/-- The `n` low bytes of `x`, most significant first. -/
def beBytes : Nat → Nat → List UInt8
  | 0, _ => []
  | n + 1, x => beBytes n (x / 256) ++ [UInt8.ofNat x]

/-- The number a byte string denotes, most significant byte first. -/
def ofBe (l : List UInt8) : Nat :=
  l.foldl (fun acc b => acc * 256 + b.toNat) 0

@[simp] lemma length_beBytes (n x : Nat) : (beBytes n x).length = n := by
  induction n generalizing x with
  | zero => rfl
  | succ n ih => simp [beBytes, ih]

lemma ofBe_concat (l : List UInt8) (b : UInt8) : ofBe (l ++ [b]) = ofBe l * 256 + b.toNat := by
  simp [ofBe]

lemma ofBe_beBytes {n x : Nat} (h : x < 256 ^ n) : ofBe (beBytes n x) = x := by
  induction n generalizing x with
  | zero =>
    have hx : x = 0 := by simpa using h
    simp [beBytes, ofBe, hx]
  | succ n ih =>
    have hdiv : x / 256 < 256 ^ n := by
      rw [Nat.div_lt_iff_lt_mul (by decide)]
      rwa [Nat.pow_succ] at h
    rw [beBytes, ofBe_concat, ih hdiv, UInt8.toNat_ofNat']
    omega

lemma beBytes_inj {n x y : Nat} (hx : x < 256 ^ n) (hy : y < 256 ^ n)
    (h : beBytes n x = beBytes n y) : x = y := by
  rw [← ofBe_beBytes hx, h, ofBe_beBytes hy]

end Rvpn
