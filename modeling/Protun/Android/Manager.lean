import Mathlib.Data.Finset.Basic
import Protun.Api.Connect

/-!
# The Android manager (`ConnectionManager.kt`)

`ConnectionManager` owns the app's native connection. Its methods, the collector of validated
networks that `init` starts and the tasks that `onProTunStateChange` launches all run on the main
thread, one after another.

* **Turns and actions.** A `Turn` is one of these. What it decides depends on the manager's own
  fields and on the answers of its dependencies (`EstablishTun`, the network observer, the clock),
  so `Turn.actions` is the list of what it then does, in order: assignments to `activeConnection`
  and `state`, and calls of native connections. `Manager.exec` does them all at once.
* **Native connections** are numbered in the order in which they were opened. `connections` records
  what each of them has been given, which the code does not keep.
* **Descriptors.** `detachFd` forgets the interface behind a descriptor. Here a
  `ParcelFileDescriptor` keeps the configuration its interface was established from.

The conversions of `UniffiTypeConversions.kt` are translated where they change a value. Peers, the
local agent's settings and the connection mode are kept as the library's own types, with keys
already decoded.
-/

namespace Protun.Android

/-! ## The app's data (`api`) -/

/-- `IpNetworkPrefix`. -/
structure IpNetworkPrefix where
  address : IpAddr
  prefixLength : Int
  deriving DecidableEq, Repr

/-- `SplitTunnelMode`. -/
inductive SplitTunnelMode where
  | includeApps
  | excludeApps
  deriving DecidableEq, Repr

/-- `SplitTunnelAppsConfig`. -/
structure SplitTunnelAppsConfig where
  mode : SplitTunnelMode
  apps : List String
  deriving DecidableEq, Repr

/-- `InterfaceConfig.defaultRoutes`. -/
def defaultRoutes (supportInTunnelIPv6 : Bool) : List IpNetworkPrefix :=
  ⟨.v4 0, 0⟩ :: if supportInTunnelIPv6 then [⟨.v6 0, 0⟩] else []

/-- `InterfaceConfig`. -/
structure InterfaceConfig where
  supportInTunnelIPv6 : Bool
  customDns : List String := []
  routes : List IpNetworkPrefix := defaultRoutes supportInTunnelIPv6
  splitTunnelAppsConfig : Option SplitTunnelAppsConfig := none
  mtu : Int := 1460
  deriving DecidableEq, Repr

/-- `PacketCaptureFile`. -/
inductive PacketCaptureFile where
  | fd (fd : Int)
  | path (path : String) (append : Bool)
  deriving DecidableEq, Repr

/-- `PacketCaptureInfo`. -/
structure PacketCaptureInfo where
  file : PacketCaptureFile
  maxBytes : Option Nat
  deriving DecidableEq, Repr

/-- `File.absolutePath`; the working directory of an Android app is `/`. -/
def absolutePath (path : String) : String :=
  if path.startsWith "/" then path else "/" ++ path

/-- `PacketCaptureInfo.toUniFFI`. -/
def PacketCaptureInfo.toUniFFI (info : PacketCaptureInfo) : PcapFileInfo where
  file :=
    match info.file with
    | .fd fd => .fd fd
    | .path path append =>
      .path (absolutePath path) (if append then .append else .overwrite)
  maxBytes := info.maxBytes

/-- `InitialConfig`. -/
structure InitialConfig where
  interfaceConfig : InterfaceConfig
  peers : List PeerInfo
  packetCaptureInfo : Option PacketCaptureInfo
  mode : ConnectionMode

/-- `VpnDisconnectError`. -/
inductive VpnDisconnectError where
  | serviceRevoked
  | interactAcrossUsers
  | serviceError (message : String)
  | tunInterfaceError (message : Option String)
  | vpnPermissionMissing
  | appError (e : String)
  deriving DecidableEq, Repr

/-- `PeerConnection`. -/
structure PeerConnection where
  protocol : Protocol
  id : String
  entryAddr : SocketAddr
  deriving DecidableEq, Repr

/-- `Restriction`. -/
inductive Restriction where
  | streaming (reason : String)
  | torrent (reason : String)
  | other (reason : String)
  deriving DecidableEq, Repr

/-- `AgentConnectionInfo`. -/
structure AgentConnectionInfo where
  serverExitV4 : Option IpAddr
  serverExitV6 : Option IpAddr
  userIspIP : Option String
  userIspCountryCode : Option String
  userIspName : Option String
  settings : LocalAgentSettings
  restrictions : List Restriction
  deriving DecidableEq, Repr

/-- `VpnConnectionState`. -/
inductive VpnConnectionState where
  | loading
  | disconnected (error : Option VpnDisconnectError)
  | connecting (connections : List PeerConnection) (waitReasons : List PeerConnectionWaitReason)
  | connectingToLocalAgent (connection : PeerConnection)
      (waitReason : Option AgentConnectionWaitReason)
  | connected (connection : PeerConnection) (connectedSince : Int)
      (agentConnectionInfo : Option AgentConnectionInfo)
  deriving DecidableEq, Repr

/-- `VpnState`. -/
structure VpnState where
  interfaceState : InterfaceState
  connectionState : VpnConnectionState
  deriving DecidableEq, Repr

/-- `VpnState.disconnectedWith`. -/
def VpnState.disconnectedWith (error : VpnDisconnectError) : VpnState :=
  ⟨.down none, .disconnected (some error)⟩

/-! ## Converting a reported state (`toCoreApi`) -/

/-- `PeerConnectionInfo.toCoreApi`. -/
def peerToCoreApi (info : PeerConnectionInfo) : PeerConnection :=
  ⟨info.protocol, info.peerId, ⟨info.entryIp, info.port⟩⟩

/-- `DisconnectReason.toCoreApi`. -/
def reasonToCoreApi : DisconnectReason → VpnDisconnectError
  | .tunEstablishError message => .tunInterfaceError (some message)

/-- The restrictions of `AgentConnectionInfo.toCoreApi`: the name of an unknown one is dropped. -/
def restrictionToCoreApi : Protun.Restriction → Restriction
  | .streaming reason => .streaming reason
  | .torrent reason => .torrent reason
  | .other _ reason => .other reason

/-- `AgentConnectionInfo.toCoreApi`: the groups are dropped. -/
def agentInfoToCoreApi (info : Protun.AgentConnectionInfo) : AgentConnectionInfo where
  serverExitV4 := info.serverExitV4
  serverExitV6 := info.serverExitV6
  userIspIP := info.userIspIp
  userIspCountryCode := info.userIspCountryCode
  userIspName := info.userIspName
  settings := info.settings
  restrictions := info.restrictions.map restrictionToCoreApi

/-- The `when` of `onProTunStateChange`. -/
def stateToCoreApi (startedAt : Int) : ConnectionState → VpnConnectionState
  | .disconnected error => .disconnected (error.map reasonToCoreApi)
  | .connecting peers waitReasons => .connecting (peers.map peerToCoreApi) waitReasons
  | .connectingToLocalAgent peer waitReason =>
    .connectingToLocalAgent (peerToCoreApi peer) waitReason
  | .connected peer agentInfo =>
    .connected (peerToCoreApi peer) startedAt (agentInfo.map agentInfoToCoreApi)

/-! ## Native connections -/

/-- The descriptor of an established interface, with the configuration it was established from. -/
structure ParcelFileDescriptor where
  fd : Int
  interfaceConfig : InterfaceConfig
  deriving DecidableEq, Repr

/-- `InitialConnectionConfig`. -/
structure InitialConnectionConfig where
  peers : List PeerInfo
  networkAvailable : Bool
  pcapFile : Option PcapFileInfo
  connectionMode : ConnectionMode

/-- A call of a method of a native `Connection`. -/
inductive Request where
  | update (peers : Option (List PeerInfo)) (settings : Option LocalAgentSettings)
      (tun : Option ParcelFileDescriptor)
  | updateUnixTun (tunFd : ParcelFileDescriptor)
  | updatePeers (peers : List PeerInfo)
  | updateLocalAgentSettings (settings : LocalAgentSettings)
  | provideApiForkSelector (info : ForkSelectorInfo)
  | startPacketCapture (file : PcapFileInfo)
  | stopPacketCapture
  | requestLocalAgentStats
  | requestStats
  | onConnectivityChange (event : ConnectivityEvent)
  | disconnectAndWait
  deriving DecidableEq

namespace Request

/-- The call of the library's API; `detachFd` keeps the number of a descriptor. -/
def toApi : Request → ApiCall
  | .update peers settings tun => .update ⟨peers, settings, tun.map fun fd => .tunFd fd.fd⟩
  | .updateUnixTun tunFd => .updateUnixTun (.tunFd tunFd.fd)
  | .updatePeers peers => .updatePeers peers
  | .updateLocalAgentSettings settings => .updateLocalAgentSettings settings
  | .provideApiForkSelector info => .provideApiForkSelector info
  | .startPacketCapture file => .startPacketCapture file
  | .stopPacketCapture => .stopPacketCapture
  | .requestLocalAgentStats => .requestLocalAgentStats
  | .requestStats => .requestStats
  | .onConnectivityChange event => .onConnectivityChange event
  | .disconnectAndWait => .disconnectAndWait

/-- The interface the request hands over. -/
def tun : Request → Option ParcelFileDescriptor
  | .update _ _ tun => tun
  | .updateUnixTun tunFd => some tunFd
  | _ => none

/-- The capture the request asks for; `some none` asks to stop. -/
def capture : Request → Option (Option PcapFileInfo)
  | .startPacketCapture file => some (some file)
  | .stopPacketCapture => some none
  | _ => none

section Update

variable (peers : Option (List PeerInfo)) (settings : Option LocalAgentSettings)
  (tunFd : Option ParcelFileDescriptor)

@[simp] theorem update_tun : (update peers settings tunFd).tun = tunFd := rfl

@[simp] theorem update_capture : (update peers settings tunFd).capture = none := rfl

end Update

end Request

/-- What a native connection has been given: the arguments of `unixConnect`, and the requests made
since. -/
structure Connection where
  config : InitialConnectionConfig
  tunFd : ParcelFileDescriptor
  requests : List Request

namespace Connection

def record (c : Connection) (r : Request) : Connection := { c with requests := c.requests ++ [r] }

/-- What the latest request that has an opinion says. -/
def latest {α : Type} (read : Request → Option α) (start : α) (requests : List Request) : α :=
  requests.foldl (fun a r => (read r).getD a) start

@[simp] theorem latest_append {α : Type} (read : Request → Option α) (start : α)
    (l l' : List Request) : latest read start (l ++ l') = latest read (latest read start l) l' :=
  List.foldl_append

@[simp] theorem latest_singleton {α : Type} (read : Request → Option α) (start : α) (r : Request) :
    latest read start [r] = (read r).getD start := rfl

/-- The interface in use: the one handed over last. -/
def tun (c : Connection) : ParcelFileDescriptor := latest Request.tun c.tunFd c.requests

/-- The capture requested last: `none` if it was to stop, or there was none. -/
def capture (c : Connection) : Option PcapFileInfo :=
  latest Request.capture c.config.pcapFile c.requests

@[simp] theorem record_tun (c : Connection) (r : Request) :
    (c.record r).tun = r.tun.getD c.tun := by simp [record, tun]

@[simp] theorem record_capture (c : Connection) (r : Request) :
    (c.record r).capture = r.capture.getD c.capture := by simp [record, capture]

end Connection

/-! ## The manager -/

/-- `android.net.Network`, by its handle. -/
abbrev Network := Nat

/-- `ActiveConnection`. The callback is the one of its connection. -/
structure ActiveConnection where
  connection : Nat
  currentConfig : InitialConfig
  validatedNetworks : Finset Network
  startedAt : Int

/-- The fields of `ConnectionManager` and the native connections it has opened. -/
structure Manager where
  activeConnection : Option ActiveConnection
  state : VpnState
  connections : List Connection

/-- A manager that has not been used. -/
def Manager.initial : Manager := ⟨none, ⟨.down none, .disconnected none⟩, []⟩

/-- What a turn does, one access at a time. -/
inductive Action where
  /-- `activeConnection = …`. -/
  | setActive (active : Option ActiveConnection)
  /-- `state.value = …`. -/
  | setState (state : VpnState)
  /-- `state.value = …` in `onProTunStateChange`, for a state that connection `origin` reported. -/
  | publish (origin : Nat) (state : VpnState)
  /-- `stateChangeCallback.clear()`. -/
  | clearCallback (connection : Nat)
  | request (connection : Nat) (r : Request)
  /-- The second half of `disconnectAndWait`: waiting for the thread. -/
  | join (connection : Nat)
  | unixConnect (config : InitialConnectionConfig) (tunFd : ParcelFileDescriptor)

/-- What the manager's dependencies answer during a call. -/
structure Answers where
  /-- `establishTun`: a descriptor, or `Result.Failure`. -/
  establishTun : Except VpnDisconnectError Int
  /-- `networkObserver.validatedNetworks.value`. -/
  validatedNetworks : Finset Network
  wallClockMs : Int

/-- `establishTun(config, builder)`. -/
def Answers.establish (answers : Answers) (config : InterfaceConfig) :
    Except VpnDisconnectError ParcelFileDescriptor :=
  answers.establishTun.map fun fd => ⟨fd, config⟩

/-- `mode is ConnectionMode.LocalAgent`: its settings. -/
def localAgentSettings : ConnectionMode → Option LocalAgentSettings
  | .localAgent _ _ settings => some settings
  | .noLocalAgent _ => none

/-- `ActiveConnection.clear`. -/
def ActiveConnection.clear (active : ActiveConnection) : List Action :=
  [.clearCallback active.connection, .request active.connection .disconnectAndWait,
    .join active.connection]

namespace Manager

variable (m : Manager)

/-- `activeConnection?.connection?.…`. -/
def onActive (r : Request) : List Action :=
  match m.activeConnection with
  | none => []
  | some active => [.request active.connection r]

/-- `clearConnection`. -/
def clearConnection (endState : VpnConnectionState) : List Action :=
  (match m.activeConnection with
    | none => []
    | some active => active.clear) ++
  [.setActive none, .setState ⟨.down none, endState⟩]

/-- `setPacketCaptureEnabled`. -/
def setPacketCaptureEnabled : Option PacketCaptureInfo → List Action
  | none => m.onActive .stopPacketCapture
  | some info => m.onActive (.startPacketCapture info.toUniFFI)

/-- The `interfaceUpdate` of `connect`. -/
def interfaceUpdate (current config : InitialConfig) (answers : Answers) :
    Except VpnDisconnectError (Option ParcelFileDescriptor) :=
  if config.interfaceConfig ≠ current.interfaceConfig then
    (answers.establish config.interfaceConfig).map some
  else .ok none

/-- The branch of `connect` that updates the active connection instead of restarting it. -/
def reconfigure (active : ActiveConnection) (config : InitialConfig)
    (settings : LocalAgentSettings) (answers : Answers) : List Action :=
  .setActive (some { active with currentConfig := config }) ::
    match interfaceUpdate active.currentConfig config answers with
    | .error reason => m.clearConnection (.disconnected (some reason))
    | .ok tun =>
      m.onActive (.update (some config.peers) (some settings) tun) ++
        if active.currentConfig.packetCaptureInfo ≠ config.packetCaptureInfo then
          m.setPacketCaptureEnabled config.packetCaptureInfo
        else []

/-- The end of `connect`, which starts a native connection. -/
def start (config : InitialConfig) (answers : Answers) : List Action :=
  match answers.establish config.interfaceConfig with
  | .error reason => [.setState (.disconnectedWith reason)]
  | .ok tunFd =>
    [.unixConnect
      { peers := config.peers
        networkAvailable := decide answers.validatedNetworks.Nonempty
        pcapFile := config.packetCaptureInfo.map PacketCaptureInfo.toUniFFI
        connectionMode := config.mode } tunFd,
     .setActive (some
      { connection := m.connections.length
        currentConfig := config
        validatedNetworks := answers.validatedNetworks
        startedAt := answers.wallClockMs })]

/-- `connect`. -/
def connect (config : InitialConfig) (answers : Answers) : List Action :=
  match m.activeConnection with
  | none => m.start config answers
  | some active =>
    match localAgentSettings active.currentConfig.mode, localAgentSettings config.mode with
    | some _, some settings => m.reconfigure active config settings answers
    | _, _ => m.clearConnection (.connecting [] []) ++ m.start config answers

/-- `updateInterfaceConfig`. -/
def updateInterfaceConfig (interfaceConfig : InterfaceConfig) (answers : Answers) : List Action :=
  match m.activeConnection with
  | none => []
  | some ongoing =>
    match answers.establish interfaceConfig with
    | .error reason => m.clearConnection (.disconnected (some reason))
    | .ok newTunFd => [.request ongoing.connection (.updateUnixTun newTunFd)]

/-- The event that `init` derives from a change of the validated networks. -/
def connectivityEvent (old new : Finset Network) : ConnectivityEvent :=
  if new = ∅ then .down else if old = ∅ then .up else .networkSwitch

/-- The collector that `init` starts. -/
def onValidatedNetworks (validatedNetworks : Finset Network) : List Action :=
  match m.activeConnection with
  | none => []
  | some active =>
    if active.validatedNetworks ≠ validatedNetworks then
      [.setActive (some { active with validatedNetworks := validatedNetworks }),
       .request active.connection (.onConnectivityChange
         (connectivityEvent active.validatedNetworks validatedNetworks))]
    else []

/-- The task that `onProTunStateChange` launches, for a state reported by connection `origin`. -/
def onProTunStateChange (origin : Nat) (proTunState : Protun.VpnState) : List Action :=
  match m.activeConnection with
  | none => []
  | some active =>
    [.publish origin
      ⟨proTunState.interfaceState, stateToCoreApi active.startedAt proTunState.connectionState⟩]

end Manager

/-! ## Turns of the main thread -/

/-- A call of the manager by the service, or a value that its collector observes. -/
inductive Call where
  | connect (config : InitialConfig) (answers : Answers)
  | clearConnection (endState : VpnConnectionState)
  | updateInterfaceConfig (interfaceConfig : InterfaceConfig) (answers : Answers)
  | updatePeers (peers : List PeerInfo)
  | updateLocalAgentSettings (settings : LocalAgentSettings)
  | update (peers : Option (List PeerInfo)) (settings : Option LocalAgentSettings)
      (tun : Option ParcelFileDescriptor)
  | provideApiForkSelector (info : ForkSelectorInfo)
  | setPacketCaptureEnabled (info : Option PacketCaptureInfo)
  | requestLocalAgentStats
  | requestConnectionStats
  | validatedNetworks (networks : Finset Network)

def Call.actions (m : Manager) : Call → List Action
  | .connect config answers => m.connect config answers
  | .clearConnection endState => m.clearConnection endState
  | .updateInterfaceConfig interfaceConfig answers =>
    m.updateInterfaceConfig interfaceConfig answers
  | .updatePeers peers => m.onActive (.updatePeers peers)
  | .updateLocalAgentSettings settings => m.onActive (.updateLocalAgentSettings settings)
  | .update peers settings tun => m.onActive (.update peers settings tun)
  | .provideApiForkSelector info => m.onActive (.provideApiForkSelector info)
  | .setPacketCaptureEnabled info => m.setPacketCaptureEnabled info
  | .requestLocalAgentStats => m.onActive .requestLocalAgentStats
  | .requestConnectionStats => m.onActive .requestStats
  | .validatedNetworks networks => m.onValidatedNetworks networks

/-- A task on the main dispatcher: `onProTunStateChange` for a state of connection `origin`. -/
structure Task where
  origin : Nat
  proTunState : Protun.VpnState
  deriving DecidableEq, Repr

/-- What runs on the main thread. -/
inductive Turn where
  | call (c : Call)
  | task (t : Task)

def Turn.actions (m : Manager) : Turn → List Action
  | .call c => c.actions m
  | .task t => m.onProTunStateChange t.origin t.proTunState

namespace Manager

/-- What an action changes in the manager and its record. -/
def act (m : Manager) : Action → Manager
  | .setActive active => { m with activeConnection := active }
  | .setState state | .publish _ state => { m with state := state }
  | .clearCallback _ | .join _ => m
  | .request connection r =>
    { m with connections := m.connections.modify connection (Connection.record · r) }
  | .unixConnect config tunFd => { m with connections := m.connections ++ [⟨config, tunFd, []⟩] }

def perform (m : Manager) (actions : List Action) : Manager := actions.foldl act m

/-- A whole turn. -/
def exec (m : Manager) (t : Turn) : Manager := m.perform (t.actions m)

/-- The manager after the turns `turns`. -/
def run (turns : List Turn) : Manager := turns.foldl exec .initial

theorem run_snoc (turns : List Turn) (t : Turn) : run (turns ++ [t]) = (run turns).exec t :=
  List.foldl_concat ..

end Manager

end Protun.Android
