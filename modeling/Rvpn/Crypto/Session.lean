import Rvpn.Core
import Rvpn.Lib.Checked
import Rvpn.Lib.Primitives

/-!
# Handshake and session keys

Model of `crates/rvpn-crypto/src/session.rs`, `key_exchange.rs`, `error.rs` and of
`transcript_hash`. Handshake proofs are sealed under the all-zero nonce, packets under a nonce made of
the key phase and the sequence number.
-/

namespace Rvpn.Crypto

/-- Errors of `rvpn-crypto`. -/
inductive CryptoError where
  | randomness
  | nonContributoryKeyAgreement
  | keyDerivation
  | invalidKey
  | encryption
  | authenticationFailed
  | obfuscationTooShort
  | invalidIdentityKey
  deriving DecidableEq

/-- `EphemeralKeyPair`: an X25519 secret; the public key is computed. -/
structure EphemeralKeyPair where
  secret : Bytes 32
  deriving DecidableEq

/-- `INFO_C2S`. -/
def infoC2s : List UInt8 := ascii "rvpn-v1/session/client-to-server"

/-- `INFO_S2C`. -/
def infoS2c : List UInt8 := ascii "rvpn-v1/session/server-to-client"

/-- The label of the responder's proof key. -/
def infoR2i : List UInt8 := ascii "rvpn-v3/handshake/proof/r2i"

/-- The label of the initiator's proof key. -/
def infoI2r : List UInt8 := ascii "rvpn-v3/handshake/proof/i2r"

variable (P : Primitives)

namespace EphemeralKeyPair

/-- `public_key`. -/
def publicKey (pair : EphemeralKeyPair) : Bytes 32 :=
  P.dhPublic pair.secret

/-- `EphemeralKeyPair::agree`. -/
def agree (pair : EphemeralKeyPair) (peer : Bytes 32) : Except CryptoError P.Shared :=
  match P.dh pair.secret peer with
  | some shared => .ok shared
  | none => .error .nonContributoryKeyAgreement

end EphemeralKeyPair

/-- `handshake_salt`. -/
def handshakeSalt (initiation responsePublic : List UInt8) : P.Digest :=
  P.sha256 (initiation ++ responsePublic)

/-- `transcript_hash`. -/
def transcriptHash (transcript : List UInt8) : P.Digest :=
  P.sha256 transcript

/-- One `expand` of HKDF with its error. -/
def expand (salt : P.Digest) (shared : P.Shared) (info : List UInt8) : Except CryptoError P.Key :=
  match P.hkdf salt shared info with
  | some key => .ok key
  | none => .error .keyDerivation

/-- `crypt`, for sealing. -/
def cryptSeal (key : P.Key) (nonce : Bytes 12) (aad plaintext : List UInt8) :
    Except CryptoError (List UInt8) :=
  match P.aeadSeal key nonce aad plaintext with
  | some c => .ok c
  | none => .error .encryption

/-- `crypt`, for opening. -/
def cryptOpen (key : P.Key) (nonce : Bytes 12) (aad ciphertext : List UInt8) :
    Except CryptoError (List UInt8) :=
  match P.aeadOpen key nonce aad ciphertext with
  | some m => .ok m
  | none => .error .authenticationFailed

/-- `HandshakeKeys`: a key for each of the two proofs. -/
structure HandshakeKeys where
  r2i : P.Key
  i2r : P.Key

namespace HandshakeKeys

/-- `HandshakeKeys::derive`. -/
def derive (shared : P.Shared) (salt : P.Digest) : Except CryptoError (HandshakeKeys P) := do
  let r2i ← expand P salt shared infoR2i
  let i2r ← expand P salt shared infoI2r
  return { r2i := r2i, i2r := i2r }

variable {P}

/-- `HandshakeKeys::seal_response`. -/
def sealResponse (keys : HandshakeKeys P) (aad plaintext : List UInt8) :
    Except CryptoError (List UInt8) :=
  cryptSeal P keys.r2i (Bytes.zero 12) aad plaintext

/-- `HandshakeKeys::open_response`. -/
def openResponse (keys : HandshakeKeys P) (aad ciphertext : List UInt8) :
    Except CryptoError (List UInt8) :=
  cryptOpen P keys.r2i (Bytes.zero 12) aad ciphertext

/-- `HandshakeKeys::seal_finish`. -/
def sealFinish (keys : HandshakeKeys P) (aad plaintext : List UInt8) :
    Except CryptoError (List UInt8) :=
  cryptSeal P keys.i2r (Bytes.zero 12) aad plaintext

/-- `HandshakeKeys::open_finish`. -/
def openFinish (keys : HandshakeKeys P) (aad ciphertext : List UInt8) :
    Except CryptoError (List UInt8) :=
  cryptOpen P keys.i2r (Bytes.zero 12) aad ciphertext

end HandshakeKeys

/-- The two ends of a session. -/
inductive SessionRole where
  | initiator
  | responder
  deriving DecidableEq

/-- `SessionKeys`: a key for each direction. -/
@[ext] structure SessionKeys where
  send : P.Key
  receive : P.Key

namespace SessionKeys

/-- `SessionKeys::derive`. -/
def derive (shared : P.Shared) (transcriptHash : P.Digest) (role : SessionRole) :
    Except CryptoError (SessionKeys P) := do
  let c2s ← expand P transcriptHash shared infoC2s
  let s2c ← expand P transcriptHash shared infoS2c
  match role with
  | .initiator => return { send := c2s, receive := s2c }
  | .responder => return { send := s2c, receive := c2s }

variable {P}

/-- `SessionKeys::seal`. -/
def sealWith (keys : SessionKeys P) (nonce : Bytes 12) (aad plaintext : List UInt8) :
    Except CryptoError (List UInt8) :=
  cryptSeal P keys.send nonce aad plaintext

/-- `SessionKeys::open`. -/
def openWith (keys : SessionKeys P) (nonce : Bytes 12) (aad ciphertext : List UInt8) :
    Except CryptoError (List UInt8) :=
  cryptOpen P keys.receive nonce aad ciphertext

end SessionKeys

/-- `PacketNonce::from_sequence`. -/
def packetNonce (keyPhase : UInt32) (sequence : UInt64) : Bytes 12 :=
  Bytes.ofList 12 (beBytes 4 keyPhase.toNat ++ beBytes 8 sequence.toNat)

variable {P}

variable {shared : P.Shared}

lemma expand_ok {salt : P.Digest} {info : List UInt8} {key : P.Key} :
    expand P salt shared info = .ok key ↔ P.hkdf salt shared info = some key := by
  unfold expand
  cases P.hkdf salt shared info with
  | none => simp
  | some k => simp

lemma cryptOpen_ok {key : P.Key} {nonce : Bytes 12} {aad c m : List UInt8} :
    cryptOpen P key nonce aad c = .ok m ↔ P.aeadOpen key nonce aad c = some m := by
  unfold cryptOpen
  cases P.aeadOpen key nonce aad c with
  | none => simp
  | some k => simp

lemma cryptSeal_ok {key : P.Key} {nonce : Bytes 12} {aad c m : List UInt8} :
    cryptSeal P key nonce aad m = .ok c ↔ P.aeadSeal key nonce aad m = some c := by
  unfold cryptSeal
  cases P.aeadSeal key nonce aad m with
  | none => simp
  | some k => simp

lemma agree_ok {pair : EphemeralKeyPair} {peer : Bytes 32} :
    pair.agree P peer = .ok shared ↔ P.dh pair.secret peer = some shared := by
  unfold EphemeralKeyPair.agree
  cases P.dh pair.secret peer with
  | none => simp
  | some k => simp

lemma HandshakeKeys.derive_ok {salt : P.Digest} {keys : HandshakeKeys P} :
    HandshakeKeys.derive P shared salt = .ok keys ↔
      P.hkdf salt shared infoR2i = some keys.r2i ∧ P.hkdf salt shared infoI2r = some keys.i2r := by
  unfold HandshakeKeys.derive
  simp only [except_bind_ok, expand_ok]
  refine ⟨?_, ?_⟩
  · intro h
    obtain ⟨r2i, hr, i2r, hi, eq⟩ := h
    cases eq
    exact ⟨hr, hi⟩
  · intro h
    exact ⟨_, h.1, _, h.2, rfl⟩

/-- The keys of the two roles: the same two derived keys, exchanged. -/
lemma SessionKeys.derive_ok {hash : P.Digest} {role : SessionRole} {keys : SessionKeys P} :
    SessionKeys.derive P shared hash role = .ok keys ↔
      ∃ c2s s2c, P.hkdf hash shared infoC2s = some c2s ∧ P.hkdf hash shared infoS2c = some s2c ∧
        keys = match role with
          | .initiator => { send := c2s, receive := s2c }
          | .responder => { send := s2c, receive := c2s } := by
  unfold SessionKeys.derive
  simp only [except_bind_ok, expand_ok]
  refine ⟨?_, ?_⟩
  · intro h
    obtain ⟨c2s, hc, s2c, hs, eq⟩ := h
    cases role with
    | initiator => exact ⟨c2s, s2c, hc, hs, (Except.ok.inj eq).symm⟩
    | responder => exact ⟨c2s, s2c, hc, hs, (Except.ok.inj eq).symm⟩
  · intro h
    obtain ⟨c2s, s2c, hc, hs, rfl⟩ := h
    cases role with
    | initiator => exact ⟨c2s, hc, s2c, hs, rfl⟩
    | responder => exact ⟨c2s, hc, s2c, hs, rfl⟩

end Rvpn.Crypto
