import Rvpn.Core
import Rvpn.Lib.Primitives

/-!
# Identities, certificates and the initiation MAC

Model of `crates/rvpn-crypto/src/identity.rs`, `auth.rs` and `mac1.rs`. An identity key pair is its
Ed25519 seed. A certificate binds a subject key to a validity period under the signature of a
certificate authority. An `AuthConfig` says how one end proves its identity and how it checks that
of the other end.
-/

namespace Rvpn.Crypto
variable (P : Primitives)

/-- `signed_fields`. -/
def signedFields (subject : Bytes 32) (notBefore notAfter : UInt64) : List UInt8 :=
  subject.toList ++ (beBytes 8 notBefore.toNat ++ beBytes 8 notAfter.toNat)

/-- `Certificate`: a key, signed for some time. -/
structure Certificate where
  subject : Bytes 32
  notBefore : UInt64
  notAfter : UInt64
  issuerSignature : Bytes 64
  deriving DecidableEq

namespace Certificate

/-- `Certificate::encode`. -/
def encode (c : Certificate) : Bytes 112 :=
  Bytes.ofList 112 (signedFields c.subject c.notBefore c.notAfter ++ c.issuerSignature.toList)

/-- `Certificate::decode`. -/
def decode (bytes : Bytes 112) : Certificate where
  subject := Bytes.ofList 32 (bytes.toList.take 32)
  notBefore := UInt64.ofNat (ofBe ((bytes.toList.drop 32).take 8))
  notAfter := UInt64.ofNat (ofBe ((bytes.toList.drop 40).take 8))
  issuerSignature := Bytes.ofList 64 (bytes.toList.drop 48)

/-- `Certificate::verify`. -/
def verify (c : Certificate) (ca : Bytes 32) (now : Nat) : Bool :=
  if now < c.notBefore.toNat ∨ c.notAfter.toNat < now then false
  else P.edVerify ca (signedFields c.subject c.notBefore c.notAfter) c.issuerSignature

end Certificate

/-- `IdentityKeyPair::issue_certificate`. -/
def issueCertificate (seed subject : Bytes 32) (notBefore notAfter : UInt64) : Certificate where
  subject := subject
  notBefore := notBefore
  notAfter := notAfter
  issuerSignature := P.edSign seed (signedFields subject notBefore notAfter)

/-- `AuthConfig`: pinned keys, or certificates of an authority. -/
inductive AuthConfig where
  | pinnedKey (localSeed peerPublicKey : Bytes 32)
  | certificate (localSeed : Bytes 32) (localCertificate : Bytes 112) (caPublicKey : Bytes 32)
  deriving DecidableEq

/-- What an end proves. -/
inductive AuthIdentity where
  | pinnedKey (seed : Bytes 32)
  | certificate (localSeed : Bytes 32) (certificate : Certificate)
  deriving DecidableEq

def AuthIdentity.seed : AuthIdentity → Bytes 32
  | .pinnedKey seed => seed
  | .certificate localSeed _ => localSeed

/-- What an end accepts. -/
inductive AuthVerifier where
  | pinnedKey (expected : Bytes 32)
  | certificate (ca : Bytes 32)
  deriving DecidableEq

/-- `Mac1Key`, by its bytes. -/
structure Mac1Key where
  bytes : Bytes 32
  deriving DecidableEq

namespace Mac1Key

/-- `from_key_material`. -/
def fromKeyMaterial (material : Bytes 32) : Mac1Key where
  bytes := P.digestBytes (P.sha256 (ascii "rvpn-v3/mac1-key" ++ material.toList))

/-- `Mac1Key::compute`. -/
def compute (key : Mac1Key) (data : List UInt8) : Bytes 16 :=
  Bytes.ofList 16 ((P.hmac key.bytes (ascii "rvpn-v3/mac1" ++ data)).toList.take 16)

/-- `Mac1Key::verify`. -/
def verify (key : Mac1Key) (data : List UInt8) (tag : Bytes 16) : Bool :=
  decide (compute P key data = tag)

end Mac1Key

namespace AuthConfig

/-- `AuthConfig::identity`. -/
def identity : AuthConfig → AuthIdentity
  | .pinnedKey localSeed _ => .pinnedKey localSeed
  | .certificate localSeed localCertificate _ =>
    .certificate localSeed (Certificate.decode localCertificate)

/-- `AuthConfig::verifier`. -/
def verifier : AuthConfig → AuthVerifier
  | .pinnedKey _ peerPublicKey => .pinnedKey peerPublicKey
  | .certificate _ _ caPublicKey => .certificate caPublicKey

def initiatorMac1Key : AuthConfig → Mac1Key
  | .pinnedKey _ peerPublicKey => Mac1Key.fromKeyMaterial P peerPublicKey
  | .certificate _ _ caPublicKey => Mac1Key.fromKeyMaterial P caPublicKey

/-- `responder_mac1_key`. -/
def responderMac1Key : AuthConfig → Mac1Key
  | .pinnedKey localSeed _ => Mac1Key.fromKeyMaterial P (P.edPublic localSeed)
  | .certificate _ _ caPublicKey => Mac1Key.fromKeyMaterial P caPublicKey

end AuthConfig

/-- `mac1_key`. -/
def AuthVerifier.mac1Key : AuthVerifier → Mac1Key
  | .pinnedKey publicKey => Mac1Key.fromKeyMaterial P publicKey
  | .certificate caPublicKey => Mac1Key.fromKeyMaterial P caPublicKey

@[simp] lemma length_signedFields (subject : Bytes 32) (notBefore notAfter : UInt64) :
    (signedFields subject notBefore notAfter).length = 48 := by
  simp [signedFields]

lemma signedFields_inj {s s' : Bytes 32} {b b' a a' : UInt64}
    (eq : signedFields s b a = signedFields s' b' a') : s = s' ∧ b = b' ∧ a = a' := by
  obtain ⟨subject, eq⟩ := List.append_inj eq (by simp)
  obtain ⟨before', after'⟩ := List.append_inj eq (by simp)
  refine ⟨Bytes.toList_inj.1 subject, ?_, ?_⟩
  · exact UInt64.toNat_inj.1 (beBytes_inj b.toNat_lt b'.toNat_lt before')
  · exact UInt64.toNat_inj.1 (beBytes_inj a.toNat_lt a'.toNat_lt after')

lemma Certificate.decode_encode (c : Certificate) : decode c.encode = c := by
  obtain ⟨subject, notBefore, notAfter, signature⟩ := c
  have before' : ofBe (beBytes 8 notBefore.toNat) = notBefore.toNat :=
    ofBe_beBytes notBefore.toNat_lt
  have after' : ofBe (beBytes 8 notAfter.toNat) = notAfter.toNat := ofBe_beBytes notAfter.toNat_lt
  have bytes : (encode ⟨subject, notBefore, notAfter, signature⟩).toList = subject.toList ++
      (beBytes 8 notBefore.toNat ++ (beBytes 8 notAfter.toNat ++ signature.toList)) := by
    rw [encode, Bytes.toList_ofList (by simp)]
    simp [signedFields]
  have drop32 : ∀ l, (subject.toList ++ l).drop 32 = l :=
    fun l => List.drop_left' (by simp)
  have drop40 : ∀ l, (subject.toList ++ (beBytes 8 notBefore.toNat ++ l)).drop 40 = l := by
    intro l
    rw [← List.append_assoc, List.drop_left' (by simp)]
  have drop48 : ∀ l, (subject.toList ++
      (beBytes 8 notBefore.toNat ++ (beBytes 8 notAfter.toNat ++ l))).drop 48 = l := by
    intro l
    rw [← List.append_assoc, ← List.append_assoc, List.drop_left' (by simp)]
  simp only [decode, bytes]
  rw [List.take_left' (by simp), drop32, List.take_left' (by simp), drop40,
    List.take_left' (by simp), drop48, before', after']
  simp

variable {P}

lemma Certificate.verify_spec {c : Certificate} {ca : Bytes 32} {now : Nat}
    (h : c.verify P ca now = true) : c.notBefore.toNat ≤ now ∧ now ≤ c.notAfter.toNat ∧
      P.edVerify ca (signedFields c.subject c.notBefore c.notAfter) c.issuerSignature = true := by
  unfold Certificate.verify at h
  split at h
  · cases h
  · next valid =>
    obtain ⟨lo, hi⟩ := not_or.1 valid
    exact ⟨Nat.le_of_not_lt lo, Nat.le_of_not_lt hi, h⟩

end Rvpn.Crypto
