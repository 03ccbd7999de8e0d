import Mathlib.Data.Finset.Card
import Rvpn.Crypto.Identity
import Rvpn.Lib.Checked
import Rvpn.Lib.HashMap

/-!
# The server configuration

Model of `crates/rvpn-config/src/server.rs`, of the parts of `network.rs`, `basic.rs` and `util.rs`
that it uses, and of `hex`. Parsing of addresses and prefixes belongs to the standard library and the
`ipnet` crate; it is a parameter (`AddressParser`). Lengths of texts are counted in characters: the
texts whose length is checked have to be ASCII anyway.
-/

namespace Rvpn.Config
open Crypto

/-- `ConfigError`, for the checks of this file. -/
inductive ConfigError where
  | invalid (message : String)
  | invalidKeyEncoding
  | invalidCertificateEncoding
  | unknownLinkPeer (name : String)
  | duplicatePeerName (name : String)
  deriving DecidableEq

/-- `str::parse` for `IpNet` and `IpAddr`. -/
structure AddressParser where
  net : String → Option IpNet
  addr : String → Option IpAddr

def hexDigit (c : Char) : Option UInt8 :=
  if '0' ≤ c ∧ c ≤ '9' then some (UInt8.ofNat (c.toNat - '0'.toNat))
  else if 'a' ≤ c ∧ c ≤ 'f' then some (UInt8.ofNat (c.toNat - 'a'.toNat + 10))
  else if 'A' ≤ c ∧ c ≤ 'F' then some (UInt8.ofNat (c.toNat - 'A'.toNat + 10))
  else none

def hexDecode : List Char → Option (List UInt8)
  | [] => some []
  | [_] => none
  | hi :: lo :: rest => do
    let hi ← hexDigit hi
    let lo ← hexDigit lo
    let rest ← hexDecode rest
    return (hi * 16 + lo) :: rest

/-- The lower-case digit of a value below sixteen. -/
def hexChar (d : UInt8) : Char :=
  if d < 10 then Char.ofNat ('0'.toNat + d.toNat) else Char.ofNat ('a'.toNat + (d.toNat - 10))

/-- `hex::encode`. -/
def hexEncode (bytes : List UInt8) : String :=
  String.ofList (bytes.flatMap fun b => [hexChar (b / 16), hexChar (b % 16)])

def eqIgnoreAsciiCase (a b : String) : Bool :=
  decide (a.toList.map Char.toLower = b.toList.map Char.toLower)

/-- `decode_key32`. -/
def decodeKey32 (value : String) : Except ConfigError (Bytes 32) :=
  if value.toList.length ≠ 64 then .error .invalidKeyEncoding
  else
    match hexDecode value.toList with
    | some bytes => .ok (Bytes.ofList 32 bytes)
    | none => .error .invalidKeyEncoding

/-- `decode_certificate`. -/
def decodeCertificate (value : String) : Except ConfigError (Bytes 112) :=
  if value.toList.length ≠ 224 then .error .invalidCertificateEncoding
  else
    match hexDecode value.toList with
    | some bytes => .ok (Bytes.ofList 112 bytes)
    | none => .error .invalidCertificateEncoding

def ensure (condition : Bool) (error : ConfigError) : Except ConfigError Unit :=
  if condition then .ok () else .error error

/-- How a peer is authenticated. -/
inductive AuthMode where
  | pinnedKey (localIdentitySeed peerPublicKey : String)
  | certificate (localIdentitySeed localCertificate caPublicKey : String)
  deriving DecidableEq

/-- `AuthMode::to_auth_config`. -/
def AuthMode.toAuthConfig : AuthMode → Except ConfigError AuthConfig
  | .pinnedKey localIdentitySeed peerPublicKey => do
    let localSeed ← decodeKey32 localIdentitySeed
    let peerPublicKey ← decodeKey32 peerPublicKey
    return .pinnedKey localSeed peerPublicKey
  | .certificate localIdentitySeed localCertificate caPublicKey => do
    let localSeed ← decodeKey32 localIdentitySeed
    let localCertificate ← decodeCertificate localCertificate
    let caPublicKey ← decodeKey32 caPublicKey
    return .certificate localSeed localCertificate caPublicKey

/-- The device of the tunnel. -/
inductive DeviceMode where
  | tun
  | tap
  | both
  deriving DecidableEq

/-- `InterfaceConfig` without the device names. -/
structure InterfaceConfig where
  name : Option String := none
  tapName : Option String := none
  mtu : Option UInt16 := none
  mode : Option DeviceMode := none
  address : Option String := none
  addresses : List String := []
  dnsServers : Option String := none
  deriving DecidableEq

/-- `[handshake]`. -/
structure HandshakeConfig where
  retryIntervalMs : UInt64 := 500
  retryLimit : UInt32 := 5
  retryJitterMs : UInt64 := 150
  deriving DecidableEq

/-- `[rekey]`. -/
structure RekeyConfig where
  packetLimit : UInt64 := 1048576
  timeLimitSecs : UInt64 := 120
  gracePeriodSecs : UInt64 := 15
  deriving DecidableEq

/-- `[liveness]`. -/
structure LivenessConfig where
  timeoutSecs : UInt64 := 90
  deriving DecidableEq

/-- The tool that forwards. -/
inductive FirewallBackend where
  | auto
  | iptables
  | nftables
  deriving DecidableEq

/-- `[forwarding]`. -/
structure ForwardingConfig where
  enabled : Bool := false
  backend : FirewallBackend := .auto
  externalInterface : Option String := none
  tunnelCidr : Option String := none
  tunnelCidrV6 : Option String := none
  deriving DecidableEq

/-- `[dns]`. -/
structure DnsConfig where
  upstreams : List SocketAddr := []
  timeoutMs : UInt64 := 2000
  attempts : Nat := 2
  cacheEntries : UInt64 := 1024
  blockedDomains : List String := []
  deriving DecidableEq

/-- `[limits]`. -/
structure PeerLimitsConfig where
  rxMibPerSec : UInt64 := 0
  txMibPerSec : UInt64 := 0
  deriving DecidableEq

/-- `[usage_history]`. -/
structure UsageHistoryConfig where
  enabled : Bool := false
  path : Option String := none
  retentionDays : UInt16 := 30
  deriving DecidableEq

/-- `[[links]]`. -/
structure LinkConfig where
  between : List String
  receivers : List String
  transmitters : List String
  deriving DecidableEq

/-- `[[peers]]`. -/
structure ServerPeerConfig where
  name : String
  auth : AuthMode
  allowedIps : List String
  deriving DecidableEq

/-- `CertificateAuthorityConfig`: overrides and revoked subjects. -/
structure CertificateAuthorityConfig where
  name : String
  caPublicKey : String
  localIdentitySeed : String
  localCertificate : String
  defaultAllowedIps : List String := []
  peerOverrides : HashMap String (List String) := ∅
  revokedSubjects : List String := []
  deriving DecidableEq

/-- `ServerConfig`. -/
structure ServerConfig where
  bind : SocketAddr
  peers : List ServerPeerConfig := []
  links : List LinkConfig := []
  certificateAuthority : Option CertificateAuthorityConfig := none
  interface : InterfaceConfig := {}
  handshake : HandshakeConfig := {}
  rekey : RekeyConfig := {}
  forwarding : ForwardingConfig := {}
  liveness : LivenessConfig := {}
  dns : DnsConfig := {}
  limits : PeerLimitsConfig := {}
  usageHistory : UsageHistoryConfig := {}
  obfuscationKey : Option String := none
  deriving DecidableEq

/-- `PeerIdentity`: a peer with its parsed addresses. -/
structure PeerIdentity where
  name : String
  allowedIps : List IpNet
  auth : AuthConfig
  deriving DecidableEq

/-- `InterfaceConfig::mode`. -/
def InterfaceConfig.deviceMode (c : InterfaceConfig) : DeviceMode :=
  c.mode.getD .tun

/-- `time_limit`. -/
def RekeyConfig.timeLimit (c : RekeyConfig) : Option Nat :=
  if c.timeLimitSecs = 0 then none else some (fromSecs c.timeLimitSecs.toNat)

/-- `grace_period`. -/
def RekeyConfig.gracePeriod (c : RekeyConfig) : Nat :=
  fromSecs c.gracePeriodSecs.toNat

def LivenessConfig.timeout (c : LivenessConfig) : Option Nat :=
  if c.timeoutSecs ≠ 0 then some (fromSecs c.timeoutSecs.toNat) else none

variable (parser : AddressParser)

/-- All prefixes of a list, or the error of the first that does not parse. -/
def parsePrefixes (message : String) (prefixes : List String) : Except ConfigError (List IpNet) :=
  prefixes.mapM fun text =>
    match parser.net text with
    | some net => .ok net
    | none => .error (.invalid message)

def isWhitespace (c : Char) : Bool :=
  let n := c.toNat
  decide (9 ≤ n ∧ n ≤ 13 ∨ 0x2000 ≤ n ∧ n ≤ 0x200a ∨
    n ∈ [0x20, 0x85, 0xa0, 0x1680, 0x2028, 0x2029, 0x202f, 0x205f, 0x3000])

/-- `dns_server_list`. -/
def InterfaceConfig.dnsServerList (c : InterfaceConfig) : Except ConfigError (List IpAddr) :=
  match c.dnsServers with
  | none => .ok []
  | some raw =>
    ((raw.toList.splitOnP fun ch => ch == ',' || isWhitespace ch).filter (!·.isEmpty)).mapM
      fun part =>
        match parser.addr (String.ofList part) with
        | some addr => .ok addr
        | none => .error (.invalid
            "interface.dns_servers must be a comma-separated list of IP addresses")

/-- `InterfaceConfig::validate`. -/
def InterfaceConfig.validate (c : InterfaceConfig) : Except ConfigError Unit := do
  ensure (c.mtu.all fun mtu => decide (576 ≤ mtu)) (.invalid "interface MTU must be at least 576")
  let _ ← parsePrefixes parser "interface addresses must be valid CIDR prefixes"
    (c.address.toList ++ c.addresses)
  let _ ← c.dnsServerList parser
  return ()

/-- `HandshakeConfig::validate`. -/
def HandshakeConfig.validate (c : HandshakeConfig) : Except ConfigError Unit :=
  ensure (c.retryIntervalMs != 0 && c.retryLimit != 0)
    (.invalid "handshake retry interval and limit must be non-zero")

/-- `LivenessConfig::validate`. -/
def LivenessConfig.validate (c : LivenessConfig) : Except ConfigError Unit :=
  ensure (c.timeoutSecs == 0 || decide (60 ≤ c.timeoutSecs))
    (.invalid "liveness.timeout_secs must be 0 (disabled) or at least 60")

/-- `ForwardingConfig::validate`. -/
def ForwardingConfig.validate (c : ForwardingConfig) : Except ConfigError Unit := do
  let missing (text : Option String) : Bool := text.getD "" == ""
  ensure (!c.enabled || !(missing c.externalInterface ||
      (missing c.tunnelCidr && missing c.tunnelCidrV6)))
    (.invalid "forwarding.external_interface and at least one tunnel CIDR are required when forwarding is enabled")
  ensure (c.tunnelCidr.all fun cidr => match parser.net cidr with | some (.v4 ..) => true | _ => false)
    (.invalid "forwarding.tunnel_cidr must be an IPv4 CIDR")
  ensure
    (c.tunnelCidrV6.all fun cidr => match parser.net cidr with | some (.v6 ..) => true | _ => false)
    (.invalid "forwarding.tunnel_cidr_v6 must be an IPv6 CIDR")

namespace ServerPeerConfig

/-- `ServerPeerConfig::validate`. -/
def validate (peer : ServerPeerConfig) : Except ConfigError Unit := do
  ensure (peer.name != "" && !peer.allowedIps.isEmpty)
    (.invalid "each server peer needs a name and at least one allowed_ips prefix")
  let _ ← peer.auth.toAuthConfig
  let _ ← parsePrefixes parser "peer allowed_ips must contain valid CIDR prefixes" peer.allowedIps
  return ()

/-- `ServerPeerConfig::identity`. -/
def identity (peer : ServerPeerConfig) : Except ConfigError PeerIdentity := do
  let allowedIps ←
    parsePrefixes parser "peer allowed_ips must contain valid CIDR prefixes" peer.allowedIps
  let auth ← peer.auth.toAuthConfig
  return { name := peer.name, allowedIps := allowedIps, auth := auth }

end ServerPeerConfig

namespace CertificateAuthorityConfig

def prefixMessage : String :=
  "certificate_authority allowed_ips must contain valid CIDR prefixes"

/-- `CertificateAuthorityConfig::validate`. -/
def validate (ca : CertificateAuthorityConfig) : Except ConfigError Unit := do
  let _ ← decodeKey32 ca.caPublicKey
  let _ ← decodeKey32 ca.localIdentitySeed
  let _ ← decodeCertificate ca.localCertificate
  let _ ← ca.revokedSubjects.mapM decodeKey32
  let _ ← (ca.defaultAllowedIps :: ca.peerOverrides.values).mapM
    (parsePrefixes parser prefixMessage)
  return ()

/-- `CertificateAuthorityConfig::to_auth_config`. -/
def toAuthConfig (ca : CertificateAuthorityConfig) : Except ConfigError AuthConfig := do
  let localSeed ← decodeKey32 ca.localIdentitySeed
  let localCertificate ← decodeCertificate ca.localCertificate
  let caPublicKey ← decodeKey32 ca.caPublicKey
  return .certificate localSeed localCertificate caPublicKey

/-- `CertificateAuthorityConfig::resolve_allowed_ips`. -/
def resolveAllowedIps (ca : CertificateAuthorityConfig) (subjectHex : String) :
    Except ConfigError (List IpNet) :=
  parsePrefixes parser prefixMessage
    ((ca.peerOverrides.lookup subjectHex).getD ca.defaultAllowedIps)

/-- `CertificateAuthorityConfig::is_revoked`. -/
def isRevoked (ca : CertificateAuthorityConfig) (subjectHex : String) : Bool :=
  ca.revokedSubjects.any fun s => eqIgnoreAsciiCase s subjectHex

lemma toAuthConfig_certificate {ca : CertificateAuthorityConfig} {auth : AuthConfig}
    (h : ca.toAuthConfig = .ok auth) : ∃ localSeed localCertificate caPublicKey,
      auth = .certificate localSeed localCertificate caPublicKey := by
  unfold toAuthConfig at h
  simp only [except_bind_ok] at h
  obtain ⟨localSeed, _, localCertificate, _, caPublicKey, _, eq⟩ := h
  exact ⟨localSeed, localCertificate, caPublicKey, (Except.ok.inj eq).symm⟩

end CertificateAuthorityConfig

/-- `valid_domain`. -/
def validDomain (domain : String) : Bool :=
  let chars := domain.toList
  let chars := if chars.getLast? = some '.' then chars.dropLast else chars
  !chars.isEmpty && decide (chars.length ≤ 253) && (chars.splitOn '.').all fun label =>
      !label.isEmpty && decide (label.length ≤ 63) && label.head? != some '-' &&
        label.getLast? != some '-' && label.all fun c => c.isAlphanum || c == '-'

namespace ServerConfig

/-- The first name that occurs a second time. -/
def checkNames (seen : Finset String) : List ServerPeerConfig → Except ConfigError (Finset String)
  | [] => .ok seen
  | peer :: rest =>
    if peer.name ∈ seen then .error (.duplicatePeerName peer.name)
    else checkNames (insert peer.name seen) rest

/-- The checks of `validate_links` on one `[[links]]` entry. -/
def checkLink (peerNames : Finset String) (hasAuthority : Bool) (link : LinkConfig) :
    Except ConfigError Unit := do
  let symmetric := !link.between.isEmpty
  let directed := !link.receivers.isEmpty || !link.transmitters.isEmpty
  ensure (symmetric != directed)
    (.invalid "each [[links]] entry needs either `between` or both `receivers` and `transmitters`")
  ensure (!(directed && (link.receivers.isEmpty || link.transmitters.isEmpty)))
    (.invalid "directed [[links]] entries need non-empty `receivers` and `transmitters`")
  let names := if symmetric then link.between else link.receivers ++ link.transmitters
  names.forM fun name =>
    ensure (decide (name ∈ peerNames) || (hasAuthority && "cert:".toList.isPrefixOf name.toList))
      (.unknownLinkPeer name)
  ensure (!symmetric || decide (2 ≤ names.toFinset.card))
    (.invalid "each [[links]] entry needs `between` to name at least two distinct peers")
  ensure (!directed || decide (link.receivers.Nodup ∧ link.transmitters.Nodup))
    (.invalid "directed [[links]] receiver and transmitter lists must not contain duplicates")
  ensure (!directed || link.receivers.all fun name => decide (name ∉ link.transmitters))
    (.invalid "directed [[links]] entries cannot authorize a peer to itself")

/-- `ServerConfig::validate_links`. -/
def validateLinks (config : ServerConfig) : Except ConfigError Unit := do
  let peerNames ← checkNames ∅ config.peers
  config.links.forM (checkLink peerNames config.certificateAuthority.isSome)

/-- The checks of `ServerConfig::validate` on `dns` and `usage_history`. -/
def validateServices (config : ServerConfig) : Except ConfigError Unit := do
  ensure (config.dns.upstreams.isEmpty || config.interface.address.isSome ||
      !config.interface.addresses.isEmpty)
    (.invalid "DNS upstreams require at least one configured tunnel interface address")
  ensure (config.dns.upstreams.all fun upstream => upstream.port != 0)
    (.invalid "DNS upstream ports must not be zero")
  ensure (decide (100 ≤ config.dns.timeoutMs ∧ config.dns.timeoutMs ≤ 30000))
    (.invalid "DNS timeout_ms must be between 100 and 30000")
  ensure (decide (1 ≤ config.dns.attempts ∧ config.dns.attempts ≤ 5))
    (.invalid "DNS attempts must be between 1 and 5")
  ensure (decide (config.dns.cacheEntries ≤ 65536)) (.invalid "DNS cache_entries must not exceed 65536")
  ensure (config.dns.blockedDomains.isEmpty || !config.dns.upstreams.isEmpty)
    (.invalid "dns.blocked_domains requires at least one DNS upstream")
  ensure (config.dns.blockedDomains.all validDomain)
    (.invalid "dns.blocked_domains must contain valid DNS domain names")
  ensure (!config.usageHistory.enabled || config.usageHistory.path.any (· != ""))
    (.invalid "usage_history.path is required when usage_history.enabled is true")
  ensure (decide (1 ≤ config.usageHistory.retentionDays ∧ config.usageHistory.retentionDays ≤ 3650))
    (.invalid "usage_history.retention_days must be between 1 and 3650")

/-- `ServerConfig::validate`. -/
def validate (config : ServerConfig) : Except ConfigError Unit := do
  ensure (config.bind.port != 0) (.invalid "endpoint port must not be zero")
  ensure (!config.peers.isEmpty || config.certificateAuthority.isSome)
    (.invalid "server needs `peers` (pinned-key) or `certificate_authority`")
  config.peers.forM fun peer => peer.validate parser
  config.certificateAuthority.toList.forM fun ca => ca.validate parser
  config.validateLinks
  config.interface.validate parser
  config.handshake.validate
  config.forwarding.validate parser
  config.liveness.validate
  config.validateServices

/-- `ServerConfig::peer_identities`. -/
def peerIdentities (config : ServerConfig) : Except ConfigError (List PeerIdentity) :=
  config.peers.mapM fun peer => peer.identity parser

lemma identity_of_validate {peer : ServerPeerConfig} (valid : peer.validate parser = .ok ()) :
    ∃ identity, peer.identity parser = .ok identity := by
  unfold ServerPeerConfig.validate at valid
  simp only [except_bind_ok] at valid
  obtain ⟨_, _, auth, usable, allowedIps, parsed, _⟩ := valid
  refine ⟨{ name := peer.name, allowedIps := allowedIps, auth := auth }, ?_⟩
  unfold ServerPeerConfig.identity
  simp only [except_bind_ok]
  exact ⟨allowedIps, parsed, auth, usable, rfl⟩

lemma peerIdentities_of_validate {config : ServerConfig} (valid : config.validate parser = .ok ()) :
    ∃ identities, config.peerIdentities parser = .ok identities := by
  unfold validate at valid
  simp only [except_bind_ok] at valid
  obtain ⟨_, _, _, _, _, peers, _⟩ := valid
  apply except_mapM_ok
  intro peer mem
  exact identity_of_validate parser (except_forM_ok peers peer mem)

/-- The sections that a configuration file leaves out pass their checks. -/
lemma validate_defaults (config : ServerConfig) (dns : config.dns = {})
    (usageHistory : config.usageHistory = {}) :
    InterfaceConfig.validate parser {} = .ok () ∧ HandshakeConfig.validate {} = .ok () ∧
      ForwardingConfig.validate parser {} = .ok () ∧ LivenessConfig.validate {} = .ok () ∧
      config.validateServices = .ok () := by
  refine ⟨rfl, rfl, rfl, rfl, ?_⟩
  simp only [validateServices, dns, usageHistory]
  rfl

end ServerConfig

/-! ### The same content -/

/-- The two sections say the same; the overrides are compared as maps. -/
structure CertificateAuthorityConfig.SameContent (ca ca' : CertificateAuthorityConfig) : Prop where
  overrides : ∀ subject, ca'.peerOverrides.lookup subject = ca.peerOverrides.lookup subject
  rest : ca' = { ca with peerOverrides := ca'.peerOverrides }

structure ServerConfig.SameContent (config config' : ServerConfig) : Prop where
  authority : Option.Rel CertificateAuthorityConfig.SameContent config.certificateAuthority
    config'.certificateAuthority
  rest : config' = { config with certificateAuthority := config'.certificateAuthority }

def ServerConfig.overrideOrder (config : ServerConfig) : Option (List String) :=
  config.certificateAuthority.map fun ca => ca.peerOverrides.keys

variable {parser}

lemma CertificateAuthorityConfig.SameContent.validate {ca ca' : CertificateAuthorityConfig}
    (same : ca.SameContent ca') (valid : ca.validate parser = .ok ()) :
    ca'.validate parser = .ok () := by
  obtain ⟨overrides, rest⟩ := same
  generalize ca'.peerOverrides = other at overrides rest
  subst rest
  unfold CertificateAuthorityConfig.validate at valid ⊢
  simp only [except_bind_ok] at valid ⊢
  obtain ⟨_, publicKey, _, seed, _, certificate, _, revoked, _, prefixes, _⟩ := valid
  refine ⟨_, publicKey, _, seed, _, certificate, _, revoked, ?_⟩
  have parsed : ∀ texts ∈ ca.defaultAllowedIps :: other.values,
      ∃ nets, parsePrefixes parser prefixMessage texts = .ok nets := by
    intro texts mem
    refine ((except_mapM_values prefixes).1 texts ?_).imp fun _ => And.right
    cases List.mem_cons.1 mem with
    | inl own => exact List.mem_cons.2 (.inl own)
    | inr mem =>
      obtain ⟨subject, found⟩ := HashMap.mem_values.1 mem
      rw [overrides] at found
      exact List.mem_cons_of_mem _ (HashMap.mem_values.2 ⟨subject, found⟩)
  obtain ⟨nets, all⟩ := except_mapM_ok parsed
  exact ⟨nets, all, rfl⟩

namespace ServerConfig.SameContent
variable {config config' : ServerConfig}

lemma validate (same : config.SameContent config') (valid : config.validate parser = .ok ()) :
    config'.validate parser = .ok () := by
  obtain ⟨authority, rest⟩ := same
  generalize config'.certificateAuthority = other at authority rest
  subst rest
  have both : config.certificateAuthority.isSome = other.isSome := by
    generalize config.certificateAuthority = first at authority
    cases authority with
    | none => rfl
    | some _ => rfl
  unfold ServerConfig.validate validateLinks at valid ⊢
  simp only [except_bind_ok, both] at valid ⊢
  obtain ⟨_, port, _, present, _, peers, _, authorities, rest⟩ := valid
  refine ⟨_, port, _, present, _, peers, (), ?_, rest⟩
  generalize config.certificateAuthority = first at authority authorities
  cases authority with
  | none => rfl
  | some same =>
    have own := except_forM_ok authorities _ (List.mem_singleton.2 rfl)
    exact except_bind_ok.2 ⟨(), same.validate own, rfl⟩

lemma eq_of_order (same : config.SameContent config')
    (order : config.overrideOrder = config'.overrideOrder) : config' = config := by
  obtain ⟨authority, rest⟩ := same
  unfold overrideOrder at order
  generalize config'.certificateAuthority = other at authority rest order
  subst rest
  obtain ⟨bind, peers, links, first⟩ := config
  cases authority with
  | none => rfl
  | some same =>
    obtain ⟨overrides, rest⟩ := same
    have equal := HashMap.ext_lookup (Option.some.inj order).symm overrides
    rw [equal] at rest
    rw [rest]

end ServerConfig.SameContent
end Rvpn.Config
