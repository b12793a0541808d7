import Protun.Api.Types

/-!
# The VPN client behind the connection thread (`pvpnclient`, `pvpn_client.rs`)

`pvpnclient` is a third-party crate. What the connection thread exchanges with it is data, modelled
here; the client itself is a parameter, one function of an environment state `E` for each method
of the trait `PvpnClient` (`pvpn_client.rs`). The functions are arbitrary: a client may answer
anything, and what it answers may depend on everything that happened before. Methods taking
`&self` get the same shape as the others, because the environment (clocks, other threads) moves
on its own.

`StreamId` is an `i32`. The values of its named constants are the crate's, so they are a parameter
too (`ReservedIds`).
-/

namespace Protun

/-- `pvpnclient::StreamId`. -/
abbrev StreamId := Int

/-- The named stream ids of `pvpnclient`. -/
structure ReservedIds where
  tun : StreamId
  pcap : StreamId
  privkey : StreamId
  cert : StreamId
  muonAuth : StreamId
  deriving DecidableEq, Repr

/-! ## Errors -/

/-- `io::ErrorKind`: the kinds the crate names, and `other` for the rest. -/
inductive ErrorKind where
  | addrInUse | addrNotAvailable | alreadyExists | brokenPipe | connectionAborted
  | connectionRefused | connectionReset | hostUnreachable | interrupted | invalidData
  | invalidInput | networkDown | networkUnreachable | notConnected | notFound | permissionDenied
  | quotaExceeded | resourceBusy | timedOut | unexpectedEof | wouldBlock | writeZero | other
  deriving DecidableEq, Repr

/-- `io::Error`: its kind, the OS code it may carry, and its text. -/
structure IoError where
  kind : ErrorKind
  rawOsError : Option Int := none
  message : String
  deriving DecidableEq, Repr

/-! ## Peers and the tunnel -/

/-- `PeerAddr`. -/
inductive PeerAddr where
  | ipv4 (addr : BitVec 32)
  | ipv6 (addr : BitVec 128)
  | both (v4 : BitVec 32) (v6 : BitVec 128)
  deriving DecidableEq, Repr

/-- `NonZeroU16`. -/
abbrev NonZeroU16 := { port : UInt16 // port ≠ 0 }

/-- A `Peer` as its builder leaves it. -/
structure Peer where
  addr : PeerAddr
  publicKey : WgPeerPublicKey
  tag : Option String
  udpPorts : List NonZeroU16
  tcpPorts : List NonZeroU16
  tlsPorts : List NonZeroU16
  priority : Int
  bouncingLabels : List String
  deriving DecidableEq

/-- `VpnProtocol`. -/
inductive VpnProtocol where
  | wireguardUdp
  | wireguardTcp
  | stealth
  deriving DecidableEq, Repr

/-- `impl From<VpnProtocol> for Protocol`. -/
def VpnProtocol.toProtocol : VpnProtocol → Protocol
  | .wireguardUdp => .wireguardUdp
  | .wireguardTcp => .wireguardTcp
  | .stealth => .stealth

/-- `TunnelInfo`. The instant a tunnel was connected is not read. -/
inductive TunnelInfo where
  | connected (protocol : VpnProtocol) (peer : Peer) (peerAddr : SocketAddr)
  | connecting (protocol : VpnProtocol) (peer : Peer) (peerAddr : SocketAddr)
  | disconnected
  deriving DecidableEq

/-! ## Actions -/

/-- `VpnStreamKind`. -/
inductive VpnStreamKind where
  | udp
  | tcp
  deriving DecidableEq, Repr

/-- `OpenStream`. -/
structure OpenStream where
  kind : VpnStreamKind
  addr : SocketAddr
  deriving DecidableEq, Repr

/-- `ActionKind`. The option of a `Set` is ignored by every stream, so it is left out. -/
inductive ActionKind where
  | openStream (target : OpenStream) (firstWrite : Option Bytes)
  | write (data : Bytes)
  | setOption
  | close
  | shutdown
  | read (data : Bytes)
  | error (kind : ErrorKind)
  | done
  deriving DecidableEq, Repr

/-- `Action`. -/
structure Action where
  streamId : StreamId
  kind : ActionKind
  deriving DecidableEq, Repr

/-! ## The local agent -/

/-- `LocalAgentSelector`: the selectors the crate watches or reads. -/
inductive LocalAgentSelector where
  | infoEstablished | infoGroups | infoRemote | restrictions | settingsCircumventionRouting
  | settingsLabel | settingsNetshieldLevel | settingsPortForwarding | settingsRandomNat
  | settingsSoftjail | settingsSplitTcp | jails
  | statsBytesSent | statsBytesReceived | statsNetshieldBlockCountAds
  | statsNetshieldBlockCountMalicious | statsNetshieldBlockCountTracking
  | statsNetshieldBlockCountAdult
  deriving DecidableEq, Repr

/-- `LocalAgentAction`. -/
inductive LocalAgentAction where
  | watch (selector : LocalAgentSelector)
  | get (selector : LocalAgentSelector)
  | provideAuthForkSelector (selector : String) (cookies : List Cookie)
  deriving DecidableEq, Repr

/-- `pvpnclient::NetshieldLevel`. -/
inductive ClientNetshieldLevel where
  | none
  | malwareFilter
  | adsAndMalwareFilter
  | adultAndAdsAndMalwareFilter
  deriving DecidableEq, Repr

/-- `impl From<NetshieldLevel> for pvpnclient::NetshieldLevel`. -/
def NetshieldLevel.toClient : NetshieldLevel → ClientNetshieldLevel
  | .none => .none
  | .malwareFilter => .malwareFilter
  | .adsAndMalwareFilter => .adsAndMalwareFilter
  | .adultAndAdsAndMalwareFilter => .adultAndAdsAndMalwareFilter

/-- `impl From<pvpnclient::NetshieldLevel> for NetshieldLevel`. -/
def ClientNetshieldLevel.toApi : ClientNetshieldLevel → NetshieldLevel
  | .none => .none
  | .malwareFilter => .malwareFilter
  | .adsAndMalwareFilter => .adsAndMalwareFilter
  | .adultAndAdsAndMalwareFilter => .adultAndAdsAndMalwareFilter

/-- `SessionSettings`. -/
structure SessionSettings where
  splitTcp : Option Bool
  netshieldLevel : Option ClientNetshieldLevel
  softjail : Option Bool
  portForwarding : Option Bool
  randomNat : Option Bool
  circumventionRouting : Option Bool
  deriving DecidableEq, Repr

/-- `impl From<LocalAgentSettings> for SessionSettings`. -/
def LocalAgentSettings.toSession (s : LocalAgentSettings) : SessionSettings where
  splitTcp := s.splitTcp
  netshieldLevel := s.netshieldLevel.map NetshieldLevel.toClient
  softjail := s.softJail
  portForwarding := s.portForwarding
  randomNat := s.randomNat
  circumventionRouting := s.circumventionRouting

/-- `Settings`; `tls_snis` is always its default. -/
structure Settings where
  authorizedProtocols : List VpnProtocol
  sessionSettings : SessionSettings
  deriving DecidableEq, Repr

/-- `pvpnclient::Restriction`. -/
inductive ClientRestriction where
  | streaming (reason : String)
  | torrent (reason : String)
  | other (name reason : String)
  deriving DecidableEq, Repr

/-- `impl From<pvpnclient::Restriction> for Restriction`. -/
def ClientRestriction.toApi : ClientRestriction → Restriction
  | .streaming reason => .streaming reason
  | .torrent reason => .torrent reason
  | .other name reason => .other name reason

/-- `HandledJail`. -/
inductive HandledJail where
  | systemError (message : String)
  | expiredCertificate (message : String)
  | revokedCertificate (message : String)
  | keyAlreadyUsed (message : String)
  | invalidCertificateSignature (message : String)
  deriving DecidableEq, Repr

/-- `ToHandleJail`. -/
inductive ToHandleJail where
  | requireRecent2FA (message : String)
  | expired2FA (message : String)
  | require2FA (message : String)
  | waitingClientChallengeReply (message : String)
  | policyViolation1 (message : String)
  | policyViolation2 (message : String)
  | badUserBehavior (message : String)
  | disabledUser (message : String)
  | sessionOverLimit (message : String)
  | freeSessionOverLimit (message : String)
  | basicSessionOverLimit (message : String)
  | plusSessionOverLimit (message : String)
  | visionarySessionOverLimit (message : String)
  | proSessionOverLimit (message : String)
  | guestSession (message : String)
  | restrictedServer (message : String)
  | noCertificateProvided (message : String)
  | sessionInstallationInProgress (message : String)
  | unknown (code : UInt64) (message : String)
  deriving DecidableEq, Repr

/-- `Jail`. -/
inductive Jail where
  | internallyHandled (jail : HandledJail)
  | toHandle (jail : ToHandleJail)
  deriving DecidableEq, Repr

/-- `Jails`, a `HashSet<Jail>` in the order its iterator gives. -/
structure Jails where
  items : List Jail
  nodup : items.Nodup
  deriving DecidableEq

/-- `LocalAgentValue`; `unrecognized` stands for the values a later client may add. -/
inductive LocalAgentValue where
  | infoEstablished (timestamp : Option Nat)
  | infoGroups (groups : Option (List String))
  | infoPlatform
  | infoRemote
  | infoRemoteReal (address : Option String)
  | infoRemoteRealLocationCode (code : Option String)
  | infoExitIpv4 (address : Option (BitVec 32))
  | infoExitIpv6 (address : Option (BitVec 128))
  | restrictions (restrictions : Option (List ClientRestriction))
  | settingsCircumventionRouting (value : Option Bool)
  | settingsLabel (value : Option String)
  | settingsNetshieldLevel (value : Option ClientNetshieldLevel)
  | settingsPortForwarding (value : Option Bool)
  | settingsRandomNat (value : Option Bool)
  | settingsSoftjail (value : Option Bool)
  | settingsSplitTcp (value : Option Bool)
  | statsBytesReceived (value : Option UInt64)
  | statsBytesSent (value : Option UInt64)
  | statsNetshieldBlockCountMalicious (value : Option UInt64)
  | statsNetshieldBlockCountAds (value : Option UInt64)
  | statsNetshieldBlockCountTracking (value : Option UInt64)
  | statsNetshieldBlockCountAdult (value : Option UInt64)
  | jails (jails : Option Jails)
  | unrecognized
  deriving DecidableEq

/-- `LocalAgentServerError`. -/
inductive LocalAgentServerError where
  | unknownFeatureRequest | badMessageSyntax | sessionNotFound | sessionError
  | netshieldLevelPolicyRefused | bouncingPolicyRefused | portFwPolicyRefused
  | splitTcpPolicyRefused | safeModePolicyRefused | randomNatPolicyRefused
  | netshieldLevelSystemErr | netshieldLevelInvalidInput | bouncingSystemErr
  | bouncingInvalidInput | portFwSystemErr | portFwInvalidInput | portFwNotAvailable
  | randomNatSystemErr | randomNatInvalidInput | splitTcpSystemErr | splitTcpInvalidInput
  | softJailSystemErr | softJailInvalidInput | safeModeSystemErr | safeModeInvalidInput
  | conflictBouncingVsRandomNat | conflictBouncingVsSplitTcp | conflictBouncingVsPortFw
  | other | unknownField
  deriving DecidableEq, Repr

/-- `LocalAgentError`; the payloads that are only logged are left out. -/
inductive LocalAgentError where
  | muonAuth
  | muonErrorOnCertRefresh
  | tooManyTriesOnCertRefresh
  | serverError (error : LocalAgentServerError)
  deriving DecidableEq, Repr

/-- `LocalAgentMessage`. -/
inductive LocalAgentMessage where
  | value (value : LocalAgentValue)
  | error (error : LocalAgentError)
  | muonForkSelectorNeeded
  | localAgentConnected
  deriving DecidableEq

/-! ## The client -/

/-- The trait `PvpnClient`: one function of the environment for each method. -/
structure PvpnClient (E : Type) where
  /-- The instant the client's clock was set to. -/
  setCurrentTime : E → Duration × E
  needPull : E → Bool × E
  peerAdd : Peer → E → E
  peerRemove : PeerAddr → E → E
  pull : E → Option Action × E
  push : Action → E → E
  pushError : StreamId → ErrorKind → E → E
  getTunnelInfo : E → Option TunnelInfo × E
  wakeupDeadline : E → Option Duration × E
  notifyNetworkChange : E → E
  notifyNetworkDown : E → E
  getStats : E → Option TunnelStats × E
  monotonicNow : E → Duration × E
  setPacketCaptureEnabled : Bool → E → E
  setSettings : Settings → E → E
  pullLocalAgent : E → Option LocalAgentMessage × E
  pushLocalAgent : LocalAgentAction → E → E

end Protun
