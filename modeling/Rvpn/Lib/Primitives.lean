import Rvpn.Lib.Bytes

/-!
# Cryptographic primitives

The third-party cryptography a program calls, as parameters. Digests, shared secrets and derived keys
are abstract types, so that the ideal assumptions can hold: `Ideal` is assumed of the primitives
themselves, `Correct` says that honest use of them works, and `Derivable` and `Authentic` are stated
over logs of what honest parties did.
-/

namespace Rvpn

/-- The cryptographic primitives a program calls. -/
structure Primitives where
  Digest : Type
  Shared : Type
  Key : Type
  sha256 : List UInt8 → Digest
  digestBytes : Digest → Bytes 32
  hmac : Bytes 32 → List UInt8 → Bytes 32
  /-- Byte `i` of the key stream for a key and a nonce. -/
  keystream : Bytes 32 → Bytes 12 → Nat → UInt8
  /-- Salt, input key material and label; `none` when the derivation fails. -/
  hkdf : Digest → Shared → List UInt8 → Option Key
  dhPublic : Bytes 32 → Bytes 32
  /-- Own secret and peer public key; `none` for an all-zero result. -/
  dh : Bytes 32 → Bytes 32 → Option Shared
  edPublic : Bytes 32 → Bytes 32
  edSign : Bytes 32 → List UInt8 → Bytes 64
  edVerify : Bytes 32 → List UInt8 → Bytes 64 → Bool
  /-- Key, nonce, associated data and plaintext. -/
  aeadSeal : Key → Bytes 12 → List UInt8 → List UInt8 → Option (List UInt8)
  /-- Key, nonce, associated data and ciphertext. -/
  aeadOpen : Key → Bytes 12 → List UInt8 → List UInt8 → Option (List UInt8)
  aeadSeal_length : ∀ {k n a m c}, aeadSeal k n a m = some c → c.length = m.length + 16

/-- One call of the AEAD by an honest party. -/
structure SealRecord (P : Primitives) where
  key : P.Key
  nonce : Bytes 12
  aad : List UInt8
  plaintext : List UInt8
  ciphertext : List UInt8

namespace Primitives
variable (P : Primitives)

/-- No collisions; Diffie-Hellman results belong to one pair only. -/
structure Ideal : Prop where
  sha256_inj : ∀ {x y}, P.sha256 x = P.sha256 y → x = y
  hkdf_inj : ∀ {d s i d' s' i' k}, P.hkdf d s i = some k → P.hkdf d' s' i' = some k →
    d = d' ∧ s = s' ∧ i = i'
  dh_comm : ∀ a b, P.dh a (P.dhPublic b) = P.dh b (P.dhPublic a)
  dh_only : ∀ {a b x y s}, P.dh a (P.dhPublic b) = some s → P.dh x y = some s →
    P.dhPublic x = P.dhPublic a ∨ P.dhPublic x = P.dhPublic b

/-- Honest use of the primitives works. -/
structure Correct : Prop where
  hkdf_total : ∀ d s i, ∃ k, P.hkdf d s i = some k
  dh_comm : ∀ a b, P.dh a (P.dhPublic b) = P.dh b (P.dhPublic a)
  verify_sign : ∀ seed m, P.edVerify (P.edPublic seed) m (P.edSign seed m) = true
  open_seal : ∀ {k n a m c}, P.aeadSeal k n a m = some c → P.aeadOpen k n a c = some m
  seal_total : ∀ k n a m, ∃ c, P.aeadSeal k n a m = some c

/-- A key that can be computed from some secret other than the honest ones. -/
def Derivable (honest : Bytes 32 → Prop) (k : P.Key) : Prop :=
  ∃ x y s d i, (∀ a, honest a → P.dhPublic x ≠ P.dhPublic a) ∧ P.dh x y = some s ∧
    P.hkdf d s i = some k

variable {P}

/-- A key derived from two honest secrets is not derivable by others. -/
lemma Ideal.not_derivable (ideal : P.Ideal) {honest : Bytes 32 → Prop} {a b : Bytes 32}
    {s : P.Shared} {d : P.Digest} {i : List UInt8} {k : P.Key} (ha : honest a) (hb : honest b)
    (agree : P.dh a (P.dhPublic b) = some s) (derive : P.hkdf d s i = some k) :
    ¬ P.Derivable honest k := by
  intro h
  obtain ⟨x, y, s', d', i', other, agree', derive'⟩ := h
  obtain ⟨_, rfl, _⟩ := ideal.hkdf_inj derive derive'
  cases ideal.dh_only agree agree' with
  | inl eq => exact other a ha eq
  | inr eq => exact other b hb eq

/-- What opens was sealed so, or others can derive the key. -/
def Authentic (log : SealRecord P → Prop) (honest : Bytes 32 → Prop) (k : P.Key) (n : Bytes 12)
    (a c : List UInt8) : Prop :=
  ∀ m, P.aeadOpen k n a c = some m → log ⟨k, n, a, m, c⟩ ∨ P.Derivable honest k

end Primitives
end Rvpn
