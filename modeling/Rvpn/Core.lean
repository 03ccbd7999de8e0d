import Rvpn.Lib.Bytes

/-!
# Shared identifiers

Model of `crates/rvpn-core/src/lib.rs`: session identifiers, the protocol version and the domain
strings that separate the uses of the cryptographic primitives. Addresses are those of the standard
library: `IpAddr`, and `SocketAddr` as an address with a port (flow label and scope id are zero for
every socket address the program builds).
-/

namespace Rvpn

/-- The bytes of an ASCII string (Rust's `b"..."`). -/
def ascii (s : String) : List UInt8 :=
  s.toList.map fun c => c.toNat.toUInt8

/-- `SessionId([u8; 16])`. -/
@[ext] structure SessionId where
  bytes : Bytes 16
  deriving DecidableEq

def SessionId.zero : SessionId :=
  ⟨Bytes.zero 16⟩

/-- `ProtocolVersion`: the encoded byte and its minor digits. -/
structure ProtocolVersion where
  encoded : UInt8
  minorDigits : UInt8
  major : UInt8
  minor : UInt8
  deriving DecidableEq

namespace ProtocolVersion

def scale (digits : UInt8) : UInt8 :=
  UInt8.ofNat (10 ^ digits.toNat)

/-- `ProtocolVersion::new`. -/
def new (encoded minorDigits : UInt8) : ProtocolVersion where
  encoded := encoded
  minorDigits := minorDigits
  major := encoded / scale minorDigits
  minor := encoded % scale minorDigits

/-- `append_domain_version`: `rvpn-v<major>.<minor>`, the minor part zero-padded. -/
def domainVersion (v : ProtocolVersion) : List UInt8 :=
  ascii "rvpn-v" ++ ascii (toString v.major.toNat) ++ ascii "." ++
    (let digits := ascii (toString v.minor.toNat)
     List.replicate (v.minorDigits.toNat - digits.length) 48 ++ digits)

end ProtocolVersion

/-- `PROTOCOL_VERSION`. -/
def protocolVersion : ProtocolVersion :=
  .new 31 1

def domain (suffix : List UInt8) : List UInt8 :=
  protocolVersion.domainVersion ++ suffix

example : domain (ascii "/handshake/cookie") = ascii "rvpn-v3.1/handshake/cookie" := by decide

/-- `Duration::from_secs`, in nanoseconds. -/
def fromSecs (n : Nat) : Nat :=
  n * 1000000000

def fromMillis (n : Nat) : Nat :=
  n * 1000000

def u64Max : Nat := 2 ^ 64 - 1

def saturatingAdd (a b : Nat) : Nat :=
  min (a + b) u64Max

def saturatingMul (a b : Nat) : Nat :=
  min (a * b) u64Max

/-- `std::net::IpAddr`, by its octets. -/
inductive IpAddr where
  | v4 (octets : Bytes 4)
  | v6 (octets : Bytes 16)
  deriving DecidableEq

structure SocketAddr where
  ip : IpAddr
  port : UInt16
  deriving DecidableEq

inductive IpNet where
  | v4 (addr : Bytes 4) (prefixLen : Fin 33)
  | v6 (addr : Bytes 16) (prefixLen : Fin 129)
  deriving DecidableEq

namespace IpNet

/-- `IpNet::prefix_len`. -/
def prefixLength : IpNet → Nat
  | .v4 _ p => p
  | .v6 _ p => p

/-- `IpNet::contains`: the same family and leading `prefix_len` bits. -/
def contains : IpNet → IpAddr → Bool
  | .v4 net p, .v4 a => ofBe net.toList / 2 ^ (32 - p.val) == ofBe a.toList / 2 ^ (32 - p.val)
  | .v6 net p, .v6 a => ofBe net.toList / 2 ^ (128 - p.val) == ofBe a.toList / 2 ^ (128 - p.val)
  | _, _ => false

end IpNet
end Rvpn
