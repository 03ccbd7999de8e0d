import Rvpn.Interface
import Rvpn.Routing.Router
import Rvpn.Server.Handshake

/-!
# The server loop

Model of `apps/rvpn-server/src/tunnel.rs`, with one step of `run_server_loop` for each branch of its
`select!`. The loop runs in one task, so an event is taken as a whole; what the system answers during it
is part of the event. A step returns the new server and what it put out, with a record of every sealed
packet and of every session that a finish installed. Logging, status reports and the usage history read
the tables and are left out.
-/

namespace Rvpn.Server
open Config Crypto Interface Protocol Routing

variable (P : Primitives)

inductive Output where
  | send (endpoint : SocketAddr) (packet : Packet)
  | queued (endpoint : SocketAddr) (packet : Packet)
  | tun (packet : List UInt8)
  | tap (frame : List UInt8)
  | sealed (active : ActivePeers P) (id : SessionId) (packet : Packet)
      (plaintext : List UInt8)
  | installed (record : Installed)

/-- What the system answers during one event: clocks, randomness, queue room. -/
structure Env where
  clock : Clock
  draw : Nat → HandshakeDraw
  wrap : Nat → Option WrapDraw
  accepts : Nat → Bool

/-- What is fixed at the start: keys, devices and settings no reload changes. -/
structure Setup where
  parser : AddressParser
  queueKey : PeerIdentity → Bytes 16
  obfuscation : Option ObfuscationKey
  cookieKey : CookieKey
  tun : Option VirtualInterface
  tap : Option VirtualInterface
  idleTimeout : Option Nat
  rekeyGracePeriod : Nat
  rxRateBytesPerSec : Nat
  rekeyPacketLimit : UInt64
  rekeyTimeLimit : Option Nat

/-- The variables of `run_server_loop`. -/
structure ServerLoop where
  config : ServerConfig
  identities : List PeerIdentity
  certificateAuthority : Option CertificateAuthorityConfig
  perSourceLimit : Nat
  active : ActivePeers P
  pending : PendingHandshakes P
  router : Router
  cookieLimiter : CookieChallengeLimiter
  outboundRate : Nat
  recvErrors : Nat
  stopped : Bool

def createDevices (mode : DeviceMode) (mtu : UInt16) (minMtu : 576 ≤ mtu.toNat) :
    Option VirtualInterface × Option VirtualInterface :=
  match mode with
  | .tun => (some ⟨mtu, .tun, minMtu⟩, none)
  | .tap => (none, some ⟨mtu, .tap, minMtu⟩)
  | .both => (some ⟨mtu, .tun, minMtu⟩, some ⟨mtu, .tap, minMtu⟩)

/-- `links_for_config`. -/
def linksForConfig (config : ServerConfig) : Links :=
  Links.fromDirectedPairs (config.links.flatMap fun link =>
    (link.between.tails.flatMap fun
      | [] => []
      | a :: rest => rest.flatMap fun b => [(a, b), (b, a)]) ++
    link.transmitters.flatMap fun transmitter =>
      link.receivers.map fun receiver => (transmitter, receiver))

/-- A rate in bytes for each second. -/
def mibRate (mibPerSec : UInt64) : Nat :=
  saturatingMul mibPerSec.toNat (1024 * 1024)

def ServerLoop.start (config : ServerConfig) (identities : List PeerIdentity)
    (certificateAuthority : Option CertificateAuthorityConfig) : ServerLoop P where
  config := config
  identities := identities
  certificateAuthority := certificateAuthority
  perSourceLimit := perSourcePendingLimit identities certificateAuthority
  active := ∅
  pending := PendingHandshakes.default P
  router := Router.new (linksForConfig config)
  cookieLimiter := CookieChallengeLimiter.default
  outboundRate := mibRate config.limits.txMibPerSec
  recvErrors := 0
  stopped := false

variable {P}

/-- Seal for an active session; the record carries the table. -/
def sealFor (active : ActivePeers P) (id : SessionId) (kind : PacketKind) (plaintext : List UInt8) :
    Option Packet × ActivePeers P × List (Output P) :=
  match active.lookup id with
  | none => (none, active, [])
  | some peer =>
    match peer.session.sealPacket kind plaintext with
    | (.error _, _) => (none, active, [])
    | (.ok packet, session) =>
      (some packet, HashMap.modify id (fun peer => { peer with session := session }) active,
        [.sealed active id packet plaintext])

/-- `register_new_peers`. -/
def registerNewPeers (router : Router) (active : ActivePeers P) : Router :=
  active.toPairs.foldl
    (fun router entry =>
      if router.contains entry.1 then router
      else router.register entry.1 entry.2.identity.name entry.2.identity.allowedIps) router

/-- `maybe_rekey` on an active session. -/
def maybeRekey (setup : Setup) (active : ActivePeers P) (id : SessionId)
    (now : Nat) : ActivePeers P × List (Output P) :=
  match active.lookup id with
  | none => (active, [])
  | some peer =>
    let (peer', requests) := maybeSendRekey peer setup.rekeyPacketLimit setup.rekeyTimeLimit now
    (HashMap.modify id (fun _ => peer') active,
      requests.flatMap fun request => [.sealed active id request [], .send peer.endpoint request])

/-- `DataPlane::send_to` with `seal_and_queue`, the event's `n`-th datagram. -/
def sendTo (setup : Setup) (env : Env) (active : ActivePeers P) (id : SessionId)
    (kind : PacketKind) (payload : List UInt8) (n : Nat) : ActivePeers P × List (Output P) :=
  let (active, requests) := maybeRekey setup active id env.clock.instant
  match sealFor active id kind payload with
  | (none, active, _) => (active, requests)
  | (some packet, active, record) =>
    match wrap P setup.obfuscation (env.wrap n) packet.encode with
    | .error _ => (active, requests ++ record)
    | .ok wire =>
      if env.accepts n then
        (HashMap.modify id
          (fun peer => { peer with stats := peer.stats.recordTx payload.length wire.length }) active,
          requests ++ record ++ ((active.lookup id).map fun peer =>
            Output.queued peer.endpoint packet).toList)
      else if kind = .data ∨ kind = .dataTap then
        (HashMap.modify id (fun peer => { peer with stats := peer.stats.recordTxQueueDrop }) active,
          requests ++ record)
      else (active, requests ++ record)

/-- `DataPlane::inject_ip`: to the TUN device, if it takes the packet. -/
def injectIp (setup : Setup) (packet : List UInt8) : List (Output P) :=
  match setup.tun with
  | some device => ((device.send packet).map Output.tun).toList
  | none => []

/-- `DataPlane::inject_frame`: to the TAP device, or without one to the TUN. -/
def injectFrame (setup : Setup) (frame : List UInt8) : List (Output P) :=
  match setup.tap with
  | some device => ((device.send frame).map Output.tap).toList
  | none =>
    match setup.tun with
    | some device => ((device.send frame).map Output.tun).toList
    | none => []

def sendToAll (setup : Setup) (env : Env) (kind : PacketKind) (payload : List UInt8) :
    List SessionId → Nat → ActivePeers P → ActivePeers P × List (Output P)
  | [], _, active => (active, [])
  | target :: rest, n, active =>
    let (active, out) := sendTo setup env active target kind payload n
    let (active, out') := sendToAll setup env kind payload rest (n + 1) active
    (active, out ++ out')

/-- The rate limit of `route_inbound` for an authenticated payload. -/
def policeInbound (active : ActivePeers P) (id : SessionId) (bytes now : Nat) :
    Bool × ActivePeers P :=
  match active.lookup id with
  | none => (true, active)
  | some peer =>
    match peer.rxLimiter.allow bytes now with
    | (true, limiter) =>
      (true, HashMap.modify id (fun peer => { peer with rxLimiter := limiter }) active)
    | (false, limiter) =>
      (false, HashMap.modify id
          (fun peer => { peer with rxLimiter := limiter, stats := peer.stats.recordRxLimitedDrop })
          active)

/-- `route_inbound`. -/
def routeInbound (setup : Setup) (env : Env) (router : Router)
    (active : ActivePeers P) (id : SessionId) (kind : PacketKind)
    (payload : List UInt8) (wireBytes : Nat) : Router × ActivePeers P × List (Output P) :=
  let (verdict, router) :=
    if kind = .dataTap then router.routeFrame id payload else (router.routeIp id payload, router)
  match verdict with
  | .drop _ =>
    (router, HashMap.modify id (fun peer => { peer with stats := peer.stats.recordDrop }) active, [])
  | .forward delivery =>
    match policeInbound active id payload.length env.clock.instant with
    | (false, active) => (router, active, [])
    | (true, active) =>
      let active := HashMap.modify id
        (fun peer => { peer with stats := peer.stats.recordRx payload.length wireBytes }) active
      let (active, out) :=
        if kind = .dataTap then sendToAll setup env .dataTap payload delivery.peers 0 active
        else
          match prepareForward payload with
          | some forwarded => sendToAll setup env .data forwarded delivery.peers 0 active
          | none => (active, [])
      let injected :=
        if delivery.toLocal then
          if kind = .dataTap then injectFrame setup payload else injectIp setup payload
        else []
      (router, active, out ++ injected)

def sendEmpty (kind : PacketKind) : List SessionId → ActivePeers P → ActivePeers P × List (Output P)
  | [], active => (active, [])
  | id :: rest, active =>
    match sealFor active id kind [] with
    | (none, active, _) => sendEmpty kind rest active
    | (some packet, active, record) =>
      let sent := ((active.lookup id).map fun peer => Output.send peer.endpoint packet).toList
      let (active, out) := sendEmpty kind rest active
      (active, record ++ sent ++ out)

/-- `close_all`. -/
def closeAll (active : ActivePeers P) : ActivePeers P × List (Output P) :=
  sendEmpty .close active.keys active

def sendKeepalives (active : ActivePeers P) : ActivePeers P × List (Output P) :=
  sendEmpty .keepalive active.keys active

/-- What the loop waits for; `none` is a file that cannot be read. -/
inductive Event where
  | shutdown
  | reload (candidate : Option ServerConfig) (dnsReplaced : Bool)
  | retry
  | sweep
  | keepaliveDue
  | dequeued (key : Option (Bytes 16)) (delay : Nat)
  | tunPacket (packet : List UInt8)
  | tapFrame (frame : List UInt8)
  | deviceFailed
  | receiveFailed
  | datagram (peer : SocketAddr) (payload : List UInt8)

/-- What `reload_config` fails with. -/
inductive ReloadError where
  | unreadable
  | config (error : ConfigError)
  | startupOnly (message : String)
  | dns
  deriving DecidableEq

namespace ServerLoop

/-- The end of the loop: every session is closed. -/
def stop (s : ServerLoop P) : ServerLoop P × List (Output P) :=
  let (active, out) := closeAll s.active
  ({ s with active := active, stopped := true }, out)

/-- `reload_config` after a change of `peers` or `certificate_authority`. -/
def dropSessions (s : ServerLoop P) : ServerLoop P × List (Output P) :=
  let (_, out) := closeAll s.active
  ({ s with
      active := ∅
      pending := PendingHandshakes.default P
      router := s.active.keys.foldl Router.unregister s.router }, out)

/-- Whether `reload_config` closes the sessions for a new configuration. -/
def authChanged (s : ServerLoop P) (next : ServerConfig) : Bool :=
  decide (¬ (s.config.peers = next.peers ∧
    s.config.certificateAuthority = next.certificateAuthority))

def applyLinks (s : ServerLoop P) (next : ServerConfig) : ServerLoop P :=
  if s.config.links ≠ next.links then
    { s with router := s.router.replaceLinks (linksForConfig next) }
  else s

def applyLimits (s : ServerLoop P) (next : ServerConfig) (now : Nat) : ServerLoop P :=
  if s.config.limits ≠ next.limits then
    { s with
      outboundRate := mibRate next.limits.txMibPerSec
      active := HashMap.mapVal
        (fun _ peer => { peer with
          rxLimiter := PeerRateLimiter.new (mibRate next.limits.rxMibPerSec) now }) s.active }
  else s

/-- The part of `reload_config` after its checks. -/
def applyConfig (s : ServerLoop P) (next : ServerConfig) (identities : List PeerIdentity)
    (now : Nat) : ServerLoop P × List (Output P) :=
  let (dropped, out) := if s.authChanged next then s.dropSessions else (s, [])
  ({ (dropped.applyLinks next).applyLimits next now with
      identities := identities
      certificateAuthority := next.certificateAuthority
      perSourceLimit := perSourcePendingLimit identities next.certificateAuthority
      config := next }, out)

/-- `reload_config`; serialized maps are compared with their order. -/
def reload (setup : Setup) (s : ServerLoop P) (candidate : Option ServerConfig) (dnsReplaced : Bool)
    (now : Nat) : Except ReloadError Bool × ServerLoop P × List (Output P) :=
  match candidate with
  | none => (.error .unreadable, s, [])
  | some next =>
    let config := s.config
    match next.validate setup.parser with
    | .error error => (.error (.config error), s, [])
    | .ok () =>
      if ¬ (config.bind = next.bind ∧ config.interface = next.interface ∧
          config.handshake = next.handshake ∧ config.rekey = next.rekey ∧
          config.forwarding = next.forwarding ∧ config.liveness = next.liveness ∧
          config.obfuscationKey = next.obfuscationKey ∧ config.usageHistory = next.usageHistory) then
        (.error (.startupOnly
          ("reload changed startup-only settings (bind, interface, forwarding, handshake, rekey, " ++
            "liveness, obfuscation, or usage-history storage); restart the server to apply them")),
          s, [])
      else if s.authChanged next = false ∧ config.links = next.links ∧ config.dns = next.dns ∧
          config.limits = next.limits then
        (.ok false, s, [])
      else
        match next.peerIdentities setup.parser with
        | .error error => (.error (.config error), s, [])
        | .ok identities =>
          if config.dns ≠ next.dns ∧ dnsReplaced = false then (.error .dns, s, [])
          else (.ok true, s.applyConfig next identities now)

/-- A reload in the loop, which only logs the result. -/
def reloadConfig (setup : Setup) (s : ServerLoop P) (candidate : Option ServerConfig)
    (dnsReplaced : Bool) (now : Nat) : ServerLoop P × List (Output P) :=
  (s.reload setup candidate dnsReplaced now).2

def sweepIdle (setup : Setup) (s : ServerLoop P) (now : Nat) : ServerLoop P :=
  match setup.idleTimeout with
  | none => s
  | some timeout =>
    let stale := (s.active.toPairs.filter fun entry =>
      decide (timeout < now - entry.2.lastRx)).map Prod.fst
    { s with
      active := stale.foldl (fun active id => active.erase id) s.active
      router := stale.foldl Router.unregister s.router }

/-- An initiation of an initial handshake. -/
def onInitiation (setup : Setup) (env : Env) (s : ServerLoop P) (peer : SocketAddr) (packet : Packet) :
    ServerLoop P × List (Output P) :=
  match HandshakeMessage.decode packet.payload with
  | .ok (.initiation publicKey random cookie mac1) =>
    let initiation := HandshakeMessage.initiation publicKey random cookie mac1
    match challengeOrAdmit P setup.cookieKey peer initiation s.cookieLimiter env.clock with
    | (true, limiter, _) =>
      let (pending, sent) := beginInitial s.identities s.certificateAuthority s.pending peer
        initiation s.perSourceLimit env.draw
      ({ s with cookieLimiter := limiter, pending := pending }, sent.map (Output.send peer))
    | (false, limiter, reply) => ({ s with cookieLimiter := limiter }, reply.map (Output.send peer))
  | _ => (s, [])

/-- The acknowledgment of a finish. If it cannot be obfuscated the loop ends. -/
def acknowledgeFinish (setup : Setup) (env : Env) (s : ServerLoop P) (peer : SocketAddr)
    (id : SessionId) : ServerLoop P × List (Output P) :=
  match s.active.lookup id with
  | none => (s, [])
  | some found =>
    if found.endpoint ≠ peer then (s, [])
    else
      match sealFor s.active id .keepalive [] with
      | (none, _, _) => (s, [])
      | (some ack, active, record) =>
        match wrap P setup.obfuscation (env.wrap 0) ack.encode with
        | .ok _ => ({ s with active := active }, record ++ [.send peer ack])
        | .error _ =>
          let (s, out) := stop { s with active := active }
          (s, record ++ out)

/-- A packet with sequence number one of an initial handshake or a rekey. -/
def onFinish (setup : Setup) (env : Env) (s : ServerLoop P) (peer : SocketAddr) (packet : Packet) :
    ServerLoop P × List (Output P) :=
  let finished := finishPending setup.parser s.pending s.active peer packet setup.rekeyGracePeriod
    setup.rxRateBytesPerSec env.clock
  let router := registerNewPeers (finished.evicted.foldl Router.unregister s.router) finished.active
  let (s, out) := acknowledgeFinish setup env
    { s with pending := finished.pending, active := finished.active, router := router } peer
    packet.header.sessionId
  (s, finished.installed.toList.map Output.installed ++ out)

def onRekey (env : Env) (s : ServerLoop P) (peer : SocketAddr) (packet : Packet) :
    ServerLoop P × List (Output P) :=
  match s.active.lookup packet.header.sessionId with
  | none => (s, [])
  | some current =>
    if peer ≠ current.endpoint then (s, [])
    else if current.session.keyPhase ≠ packet.header.keyPhase then (s, [])
    else
      match HandshakeMessage.decode packet.payload with
      | .ok (.initiation publicKey random cookie mac1) =>
        let (pending, sent) := beginRekey s.pending peer current
          (.initiation publicKey random cookie mac1) s.perSourceLimit (env.draw 0)
        ({ s with pending := pending }, sent.map (Output.send peer))
      | _ => (s, [])

def onKeepalive (env : Env) (s : ServerLoop P) (peer : SocketAddr) (packet : Packet) :
    ServerLoop P × List (Output P) :=
  let id := packet.header.sessionId
  match s.active.lookup id with
  | none => (s, [])
  | some found =>
    match found.session.openPacket packet env.clock.instant with
    | (.error _, session) =>
      ({ s with active := HashMap.modify id (fun p => { p with session := session }) s.active }, [])
    | (.ok _, session) =>
      let active := HashMap.modify id
        (fun p => { p with session := session, lastRx := env.clock.instant, endpoint := peer }) s.active
      match sealFor active id .keepalive [] with
      | (none, active, _) => ({ s with active := active }, [])
      | (some reply, active, record) => ({ s with active := active }, record ++ [.send peer reply])

/-- A packet of kind `Data`, `DataTap` or `Close`. -/
def onData (setup : Setup) (env : Env) (s : ServerLoop P) (peer : SocketAddr) (packet : Packet)
    (wireBytes : Nat) : ServerLoop P × List (Output P) :=
  let id := packet.header.sessionId
  match s.active.lookup id with
  | none => (s, [])
  | some found =>
    match found.session.openPacket packet env.clock.instant with
    | (.error _, session) =>
      ({ s with active := HashMap.modify id (fun p => { p with session := session }) s.active }, [])
    | (.ok plaintext, session) =>
      let active := HashMap.modify id
        (fun p => { p with session := session, lastRx := env.clock.instant }) s.active
      if packet.header.kind = .close then
        ({ s with active := active.erase id, router := s.router.unregister id }, [])
      else if packet.header.kind = .data ∧ plaintext = [] then ({ s with active := active }, [])
      else
        let active := HashMap.modify id (fun p => { p with endpoint := peer }) active
        let (router, active, out) :=
          routeInbound setup env s.router active id packet.header.kind plaintext wireBytes
        ({ s with router := router, active := active }, out)

/-- The dispatch on the header of a decoded packet. -/
def onPacket (setup : Setup) (env : Env) (s : ServerLoop P) (peer : SocketAddr) (packet : Packet)
    (wireBytes : Nat) : ServerLoop P × List (Output P) :=
  match packet.header.kind with
  | .handshake =>
    if packet.header.sequence = 0 ∧ packet.header.sessionId = SessionId.zero then
      onInitiation setup env s peer packet
    else if packet.header.sequence = 1 then onFinish setup env s peer packet
    else (s, [])
  | .rekey =>
    if packet.header.sequence = 1 then onFinish setup env s peer packet
    else onRekey env s peer packet
  | .keepalive => onKeepalive env s peer packet
  | _ => onData setup env s peer packet wireBytes

/-- `run_server_loop`: one round. -/
def step (setup : Setup) (s : ServerLoop P) (event : Event × Env) : ServerLoop P × List (Output P) :=
  let env := event.2
  if s.stopped then (s, [])
  else
    match event.1 with
    | .shutdown => s.stop
    | .reload candidate dnsReplaced => s.reloadConfig setup candidate dnsReplaced env.clock.instant
    | .retry =>
      let (pending, sent) := retransmitPending s.pending s.config.handshake.retryLimit.toNat
      ({ s with pending := pending }, sent.map fun entry => .send entry.1 entry.2)
    | .sweep => (s.sweepIdle setup env.clock.instant, [])
    | .keepaliveDue =>
      let (active, out) := sendKeepalives s.active
      ({ s with active := active }, out)
    | .dequeued key delay =>
      match s.active.toPairs.find? fun entry =>
          some (setup.queueKey entry.2.identity) == key with
      | none => (s, [])
      | some entry =>
        ({ s with
            active := HashMap.modify entry.1
              (fun peer => { peer with stats := peer.stats.recordQueueDelay delay }) s.active }, [])
    | .tunPacket packet =>
      match s.router.routeFromLocalIp packet with
      | none => (s, [])
      | some target =>
        let (active, out) := sendTo setup env s.active target .data packet 0
        ({ s with active := active }, out)
    | .tapFrame frame =>
      let (active, out) :=
        sendToAll setup env .dataTap frame (s.router.routeFromLocalFrame frame) 0 s.active
      ({ s with active := active }, out)
    | .deviceFailed => s.stop
    | .receiveFailed =>
      let s := { s with recvErrors := s.recvErrors + 1 }
      if 50 ≤ s.recvErrors then s.stop else (s, [])
    | .datagram peer payload =>
      let s := { s with recvErrors := 0 }
      match decodeDatagram P setup.obfuscation payload with
      | none => (s, [])
      | some packet => s.onPacket setup env peer packet payload.length

end ServerLoop

def deviceSetup (devices : Option VirtualInterface × Option VirtualInterface) : Setup where
  parser := ⟨fun _ => none, fun _ => none⟩
  queueKey := fun _ => Bytes.zero 16
  obfuscation := none
  cookieKey := ⟨Bytes.zero 32⟩
  tun := devices.1
  tap := devices.2
  idleTimeout := none
  rekeyGracePeriod := 0
  rxRateBytesPerSec := 0
  rekeyPacketLimit := 0
  rekeyTimeLimit := none

/-- A moment at which all random draws fail. -/
def sampleEnv : Env where
  clock := ⟨0, 0⟩
  draw := fun _ => ⟨none, none, none⟩
  wrap := fun _ => none
  accepts := fun _ => true

def keyOf (x : UInt8) : Bytes 32 :=
  Bytes.ofList 32 [x]

def hostNet (last : UInt8) : IpNet :=
  .v4 (Bytes.ofList 4 [10, 0, 0, last]) 32

def clientEndpoint : SocketAddr where
  ip := .v4 (Bytes.ofList 4 [192, 0, 2, 7])
  port := 40000

end Rvpn.Server
