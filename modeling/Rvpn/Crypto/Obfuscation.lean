import Rvpn.Crypto.Session

/-!
# Obfuscation and cookies

Model of `crates/rvpn-crypto/src/obfuscation.rs` and `cookie.rs`. An obfuscated datagram is a nonce
followed by the padded packet under a key stream; `unwrap_wrap` is the round trip. A cookie is an
HMAC over the endpoint, the client's values and a time bucket of one minute.
-/

namespace Rvpn.Crypto
variable (P : Primitives)

/-- `MAX_PADDING`. -/
def maxPadding : Nat := 96

/-- `OBFUSCATION_OVERHEAD`. -/
def obfuscationOverhead : Nat := 12 + 1 + maxPadding

/-- The key that both ends share. -/
structure ObfuscationKey where
  bytes : Bytes 32
  deriving DecidableEq

/-- The random values of one `wrap`: nonce, padding selector, padding. -/
structure WrapDraw where
  nonce : Bytes 12
  padSelector : UInt8
  padding : Nat → UInt8

/-- `apply_keystream` of a fresh cipher. -/
def applyKeystream (key : Bytes 32) (nonce : Bytes 12) (body : List UInt8) : List UInt8 :=
  body.mapIdx fun i b => b ^^^ P.keystream key nonce i

namespace ObfuscationKey

/-- `ObfuscationKey::wrap`; the selector gives the padding's length. -/
def wrap (key : ObfuscationKey) (draw : Option WrapDraw) (inner : List UInt8) :
    Except CryptoError (List UInt8) :=
  match draw with
  | none => .error .randomness
  | some draw =>
    let paddingLen := draw.padSelector.toNat % (maxPadding + 1)
    let body := UInt8.ofNat paddingLen :: (inner ++ (List.range paddingLen).map draw.padding)
    .ok (draw.nonce.toList ++ applyKeystream P key.bytes draw.nonce body)

/-- `ObfuscationKey::unwrap`. -/
def unwrap (key : ObfuscationKey) (datagram : List UInt8) : Except CryptoError (List UInt8) :=
  if datagram.length < 12 + 1 then .error .obfuscationTooShort
  else
    match applyKeystream P key.bytes (Bytes.ofList 12 (datagram.take 12)) (datagram.drop 12) with
    | [] => .error .obfuscationTooShort
    | paddingLen :: rest =>
      if rest.length < paddingLen.toNat then .error .obfuscationTooShort
      else .ok (rest.take (rest.length - paddingLen.toNat))

end ObfuscationKey

/-- The server's key for cookies. -/
structure CookieKey where
  secret : Bytes 32
  deriving DecidableEq

namespace CookieKey

def endpointBytes (endpoint : SocketAddr) : List UInt8 :=
  match endpoint.ip with
  | .v4 octets => 4 :: (octets.toList ++ beBytes 2 endpoint.port.toNat)
  | .v6 octets => 6 :: (octets.toList ++ beBytes 2 endpoint.port.toNat)

/-- `CookieKey::compute`. -/
def compute (key : CookieKey) (endpoint : SocketAddr) (publicKey random : Bytes 32) (bucket : Nat) :
    Bytes 32 :=
  P.hmac key.secret (domain (ascii "/handshake/cookie") ++ (beBytes 8 bucket ++
    (endpointBytes endpoint ++ (publicKey.toList ++ random.toList))))

/-- `CookieKey::mint`. -/
def mint (key : CookieKey) (endpoint : SocketAddr) (publicKey random : Bytes 32) (now : Nat) :
    Bytes 32 :=
  compute P key endpoint publicKey random (now / 60)

/-- `CookieKey::verify`. -/
def verify (key : CookieKey) (endpoint : SocketAddr) (publicKey random cookie : Bytes 32)
    (now : Nat) : Bool :=
  let bucket := now / 60
  if compute P key endpoint publicKey random bucket = cookie then true
  else if bucket = 0 then false
  else decide (compute P key endpoint publicKey random (bucket - 1) = cookie)

end CookieKey

variable {P}

@[simp] lemma length_applyKeystream (key : Bytes 32) (nonce : Bytes 12) (body : List UInt8) :
    (applyKeystream P key nonce body).length = body.length := by
  simp [applyKeystream]

@[simp] lemma applyKeystream_applyKeystream (key : Bytes 32) (nonce : Bytes 12) (body : List UInt8) :
    applyKeystream P key nonce (applyKeystream P key nonce body) = body := by
  apply List.ext_getElem
  · simp
  · intro i h h'
    simp only [applyKeystream, List.getElem_mapIdx]
    rw [UInt8.xor_assoc, UInt8.xor_self, UInt8.xor_zero]

lemma ObfuscationKey.exists_wrap (key : ObfuscationKey) (draw : WrapDraw) (inner : List UInt8) :
    ∃ wire, key.wrap P (some draw) inner = .ok wire :=
  ⟨_, rfl⟩

variable {inner wire : List UInt8} {key : ObfuscationKey}

lemma ObfuscationKey.length_wrap {draw : WrapDraw} (h : key.wrap P (some draw) inner = .ok wire) :
    wire.length = inner.length + 13 + draw.padSelector.toNat % (maxPadding + 1) := by
  cases h
  simp
  omega

lemma ObfuscationKey.length_wrap_bounds {draw : Option WrapDraw}
    (h : key.wrap P draw inner = .ok wire) :
    inner.length + 13 ≤ wire.length ∧ wire.length ≤ inner.length + obfuscationOverhead := by
  cases draw with
  | none => cases h
  | some draw =>
    have padding := Nat.mod_lt draw.padSelector.toNat (show 0 < maxPadding + 1 by decide)
    rw [length_wrap h, obfuscationOverhead]
    omega

lemma ObfuscationKey.unwrap_wrap {draw : Option WrapDraw} (h : key.wrap P draw inner = .ok wire) :
    key.unwrap P wire = .ok inner := by
  cases draw with
  | none => cases h
  | some draw =>
    cases h
    have small : draw.padSelector.toNat % (maxPadding + 1) < 256 := by
      have := Nat.mod_lt draw.padSelector.toNat (show 0 < maxPadding + 1 by decide)
      simp only [maxPadding] at this ⊢
      omega
    have size : (UInt8.ofNat (draw.padSelector.toNat % (maxPadding + 1))).toNat =
        draw.padSelector.toNat % (maxPadding + 1) := UInt8.toNat_ofNat_of_lt small
    have nonce : draw.nonce.toList.length = 12 := by simp
    unfold unwrap
    rw [List.take_left' nonce, List.drop_left' nonce, Bytes.ofList_toList,
      applyKeystream_applyKeystream, if_neg (by simp; omega)]
    simp [size]

end Rvpn.Crypto
