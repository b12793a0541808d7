import Mathlib.Data.Int.Notation

/-!
# The library's public data (`src/api`)

The types of `state.rs`, `connection.rs`, `local_agent.rs` and `events.rs` that the connection
thread reads or produces, with the `local-agent` and `mio` features on.

* Byte strings are `List UInt8`. `u16`, `u32` and `u64` fields are the machine types. `i32`
  priorities and file descriptors are `Int`.
* A `Duration` or an instant is a number of nanoseconds, exact.
* The `f32` loss estimate of a statistics event is only copied; it is kept as its bits.
* `AgentConnectionInfo::user_isp_coordinates` (two `f64`) is left out: no code ever sets it, so it
  is `None` in every value and takes no part in a comparison.
-/

namespace Protun

/-- A byte string. -/
abbrev Bytes := List UInt8

/-- `std::time::Duration` and the client's instants, in nanoseconds. -/
abbrev Duration := Nat

/-! ## Addresses -/

/-- `std::net::IpAddr`. -/
inductive IpAddr where
  | v4 (addr : BitVec 32)
  | v6 (addr : BitVec 128)
  deriving DecidableEq, Repr

/-- `Ipv4Addr::octets`. -/
def octets (a : BitVec 32) : List Nat :=
  [24, 16, 8, 0].map fun sh => (a >>> sh).toNat % 256

/-- `Ipv6Addr::segments`. -/
def segments (a : BitVec 128) : List Nat :=
  [112, 96, 80, 64, 48, 32, 16, 0].map fun sh => (a >>> sh).toNat % 65536

/-- `impl Display for Ipv4Addr`. -/
def ipv4ToString (a : BitVec 32) : String :=
  ".".intercalate ((octets a).map fun o => toString o)

/-- A run of zero segments. -/
structure Span where
  start : Nat
  len : Nat
  deriving DecidableEq, Repr

/-- The first longest run of zero segments: `current` is the run being read, `longest` the best
so far, `i` the index of the next segment. -/
def longestZeroes : Nat → Span → Span → List Nat → Span
  | _, _, longest, [] => longest
  | i, current, longest, seg :: segs =>
    if seg = 0 then
      let current := ⟨if current.len = 0 then i else current.start, current.len + 1⟩
      longestZeroes (i + 1) current (if longest.len < current.len then current else longest) segs
    else longestZeroes (i + 1) ⟨0, 0⟩ longest segs

/-- `fmt_subslice`: lower-case hexadecimal segments separated by colons. -/
def fmtSubslice (segs : List Nat) : String :=
  ":".intercalate (segs.map fun s => String.ofList (Nat.toDigits 16 s))

/-- `impl Display for Ipv6Addr`: an IPv4-mapped address keeps its dotted tail, otherwise the
first longest run of at least two zero segments is written `::`. -/
def ipv6ToString (a : BitVec 128) : String :=
  let segs := segments a
  if segs.take 6 = [0, 0, 0, 0, 0, 65535] then
    "::ffff:" ++ ipv4ToString (a.truncate 32)
  else
    let zeroes := longestZeroes 0 ⟨0, 0⟩ ⟨0, 0⟩ segs
    if 1 < zeroes.len then
      fmtSubslice (segs.take zeroes.start) ++ "::" ++
        fmtSubslice (segs.drop (zeroes.start + zeroes.len))
    else fmtSubslice segs

/-- `IpAddr::to_string`. -/
def IpAddr.toText : IpAddr → String
  | .v4 a => ipv4ToString a
  | .v6 a => ipv6ToString a

example : (IpAddr.v4 0xc0a80001#32).toText = "192.168.0.1" := by decide
example : (IpAddr.v6 0x20010db8000000000000000000000001#128).toText = "2001:db8::1" := by decide

/-- `SocketAddr`, of which the code reads `ip()` and `port()`. -/
structure SocketAddr where
  ip : IpAddr
  port : UInt16
  deriving DecidableEq, Repr

/-! ## `connection.rs` -/

/-- `WgPeerPublicKey`. -/
abbrev WgPeerPublicKey := Vector UInt8 32

/-- `PeerInfo`: a candidate peer. -/
structure PeerInfo where
  peerId : String
  serverIp : IpAddr
  serverPublicKey : WgPeerPublicKey
  udpPorts : List UInt16
  tcpPorts : List UInt16
  tlsPorts : List UInt16
  priority : Int
  exitLabel : Option String
  deriving DecidableEq

/-- `FileWriteMode`. -/
inductive FileWriteMode where
  | append
  | overwrite
  deriving DecidableEq, Repr

/-- `PcapFile`. -/
inductive PcapFile where
  | path (path : String) (mode : FileWriteMode)
  | fd (fd : Int)
  deriving DecidableEq, Repr

/-- `PcapFileInfo`. -/
structure PcapFileInfo where
  file : PcapFile
  maxBytes : Option Nat
  deriving DecidableEq, Repr

/-- `TunStreamInfo`. -/
inductive TunStreamInfo where
  | noTun
  | tunFd (fd : Int)
  deriving DecidableEq, Repr

/-- `ConnectivityEvent`. -/
inductive ConnectivityEvent where
  | up
  | down
  | networkSwitch
  deriving DecidableEq, Repr

/-- `CacheKey`. -/
inductive CacheKey where
  | certificate
  | privateKey
  | apiSession
  deriving DecidableEq, Repr

/-- `Cookie`. -/
structure Cookie where
  name : String
  value : String
  deriving DecidableEq, Repr

/-- `ForkSelectorInfo`. -/
structure ForkSelectorInfo where
  selector : String
  cookies : List Cookie
  deriving DecidableEq, Repr

/-! ## `local_agent.rs` -/

/-- `NetshieldLevel`. -/
inductive NetshieldLevel where
  | none
  | malwareFilter
  | adsAndMalwareFilter
  | adultAndAdsAndMalwareFilter
  deriving DecidableEq, Repr

/-- `LocalAgentSettings`; `None` asks for the server's default. -/
structure LocalAgentSettings where
  splitTcp : Option Bool := none
  netshieldLevel : Option NetshieldLevel := none
  softJail : Option Bool := none
  portForwarding : Option Bool := none
  randomNat : Option Bool := none
  circumventionRouting : Option Bool := none
  deriving DecidableEq, Repr

/-- `Restriction`. -/
inductive Restriction where
  | streaming (reason : String)
  | torrent (reason : String)
  | other (name reason : String)
  deriving DecidableEq, Repr

/-- `AgentConnectionInfo`. -/
structure AgentConnectionInfo where
  serverExitV4 : Option IpAddr := none
  serverExitV6 : Option IpAddr := none
  userIspIp : Option String := none
  userIspCountryCode : Option String := none
  userIspName : Option String := none
  restrictions : List Restriction := []
  groups : List String := []
  settings : LocalAgentSettings := {}
  deriving DecidableEq, Repr

/-- `WaitJailReason`. -/
inductive WaitJailReason where
  | badUserBehavior (message : String)
  | disabledUser (message : String)
  | lowPlan (message : String)
  | need2FA (message : String)
  | pendingInvoice (message : String)
  | sessionOverLimit (message : String)
  | waitingClientChallengeReply (message : String)
  | internal (message : String)
  | other (code : UInt64) (message : String)
  deriving DecidableEq, Repr

/-! ## `state.rs` -/

/-- `Protocol`. -/
inductive Protocol where
  | wireguardUdp
  | wireguardTcp
  | stealth
  deriving DecidableEq, Repr

/-- `PeerConnectionInfo`. -/
structure PeerConnectionInfo where
  peerId : String
  entryIp : IpAddr
  protocol : Protocol
  port : UInt16
  deriving DecidableEq, Repr

/-- `PeerConnectionWaitReason`. -/
inductive PeerConnectionWaitReason where
  | waitingForNetwork
  deriving DecidableEq, Repr

/-- `AgentConnectionWaitReason`. -/
inductive AgentConnectionWaitReason where
  | softJailed
  | hardJailed (jails : List WaitJailReason)
  deriving DecidableEq, Repr

/-- `DisconnectReason`. -/
inductive DisconnectReason where
  | tunEstablishError (message : String)
  deriving DecidableEq, Repr

/-- `ConnectionState`. -/
inductive ConnectionState where
  | disconnected (error : Option DisconnectReason)
  | connecting (peers : List PeerConnectionInfo) (waitReasons : List PeerConnectionWaitReason)
  | connectingToLocalAgent (peer : PeerConnectionInfo)
      (waitReason : Option AgentConnectionWaitReason)
  | connected (peer : PeerConnectionInfo) (agentInfo : Option AgentConnectionInfo)
  deriving DecidableEq, Repr

/-- `InterfaceError`. -/
inductive InterfaceError where
  | ioError (error : String)
  deriving DecidableEq, Repr

/-- `InterfaceState`. -/
inductive InterfaceState where
  | up (error : Option InterfaceError)
  | down (lastError : Option InterfaceError)
  deriving DecidableEq, Repr

/-- `VpnState`: what the state callback receives. -/
structure VpnState where
  interfaceState : InterfaceState
  connectionState : ConnectionState
  deriving DecidableEq, Repr

/-! ## `events.rs` -/

/-- `LocalAgentSettingType`. -/
inductive LocalAgentSettingType where
  | netshieldLevel
  | bouncing
  | portForwarding
  | splitTcp
  | safeMode
  | randomNat
  deriving DecidableEq, Repr

/-- `ErrorEvent`. -/
inductive ErrorEvent where
  | apiSessionExpired
  | localAgentSettingPolicyRefused (setting : LocalAgentSettingType)
  | certificateRefreshFatalError
  deriving DecidableEq, Repr

/-- `CaptureStopReason`. -/
inductive CaptureStopReason where
  | request (file : PcapFileInfo)
  | maxSizeReached (file : PcapFileInfo)
  | disconnected (file : PcapFileInfo)
  | alreadyStopped
  deriving DecidableEq, Repr

/-- The counters of `Event::LocalAgentStats`. -/
structure LocalAgentStats where
  bytesReceived : Option UInt64
  bytesSent : Option UInt64
  maliciousBlocked : Option UInt64
  adsBlocked : Option UInt64
  trackersBlocked : Option UInt64
  adultContentBlocked : Option UInt64
  dataSaved : Option UInt64
  deriving DecidableEq, Repr

/-- `pvpnclient::stats::TunnelStats`. -/
structure TunnelStats where
  rx : UInt64
  tx : UInt64
  timeSinceLastHandshake : Duration
  estimatedLoss : UInt32
  estimatedRtt : Duration
  deriving DecidableEq, Repr

/-- `Event`. The fields of `ConnectionStats` are the tunnel's statistics and the time they were
read (`Event::from_tunnel_stats`). -/
inductive Event where
  | connectionStats (timestampMs : Int) (stats : TunnelStats)
  | packetCaptureStarted (info : PcapFileInfo)
  | packetCaptureStopped (reason : CaptureStopReason)
  | localAgentStats (stats : LocalAgentStats)
  | error (error : ErrorEvent)
  deriving DecidableEq, Repr

/-- `ConfigUpdate`. -/
structure ConfigUpdate where
  peers : Option (List PeerInfo)
  settings : Option LocalAgentSettings
  tun : Option TunStreamInfo
  deriving DecidableEq

/-- `PvpnMessage`: what the API sends to the connection thread. -/
inductive PvpnMessage where
  | disconnect
  | connectivityChange (event : ConnectivityEvent)
  | startPacketCapture (file : PcapFileInfo)
  | stopPacketCapture
  | requestStats
  | update (update : ConfigUpdate)
  | provideApiForkSelector (info : ForkSelectorInfo)
  | requestLocalAgentStats
  deriving DecidableEq

/-- The part of `InitialConnectionConfig` that `PvpnConnection::new` receives. The local-agent
settings are present exactly in `ConnectionMode::LocalAgent` (`start_pvpn_connection`). -/
structure InitialConfig where
  peers : List PeerInfo
  networkAvailable : Bool
  pcapFile : Option PcapFileInfo
  localAgentSettings : Option LocalAgentSettings

end Protun
