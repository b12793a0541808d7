import Protun.Agent.Handler
import Protun.Pcap
import Protun.Peers
import Protun.Recovery
import Protun.Streams.Trait
import Protun.Trace.Past

/-!
# The connection thread (`pvpn_connection.rs`)

`PvpnConnection::new` and `run` as programs over the connection's fields and the environment
(`Sys`). Everything outside the crate is a field of `PvpnDependencies`: the client, the streams,
the file system, the message channel, the two callbacks, the cache and the clock. All of them are
arbitrary, so a statement about every `PvpnDependencies` and every first environment is a
statement about any messages, any answers of the client and any stream results.

* A call is observed (`Obs`) with its arguments or its answer. Three marks that are no call of the
  source stand at the end of `update_state` (`updated`), at the end of
  `handle_stream_write_result` (`handled`) and at the start of `on_connection_loop_end`
  (`loopEnd`).
* Every loop of the source takes the fuel `n`.
* Indexing the read buffer out of bounds panics; here the program never returns.
* Log output is left out, and so is `debug_assert!(false, ..)` for the actions that the client
  must not hand out, which a release build only logs.
-/

namespace Protun

open Trace

/-! ## Pure parts -/

/-- `to_tun_error`. -/
def toTunError : StreamResult → Option InterfaceError
  | .ok .. => none
  | .err e => some (.ioError e.message)
  | .streamClosed => some (.ioError "Stream closed")

/-- `get_peer_id`. -/
def getPeerId (peer : Peer) (peerAddr : SocketAddr) : String :=
  peer.tag.getD peerAddr.ip.toText

/-- `get_peer_connection_info`. -/
def getPeerConnectionInfo (peer : Peer) (peerAddr : SocketAddr) (protocol : VpnProtocol) :
    PeerConnectionInfo where
  peerId := getPeerId peer peerAddr
  entryIp := peerAddr.ip
  protocol := protocol.toProtocol
  port := peerAddr.port

/-- `network_unavailable_state`. -/
def networkUnavailableState (tunnelInfo : Option TunnelInfo) : ConnectionState :=
  let peers :=
    match tunnelInfo with
    | some (.connected protocol peer peerAddr) => [getPeerConnectionInfo peer peerAddr protocol]
    | some (.connecting protocol peer peerAddr) => [getPeerConnectionInfo peer peerAddr protocol]
    | _ => []
  .connecting peers [.waitingForNetwork]

/-- `pvpn_settings`. -/
def pvpnSettings (sessionSettings : SessionSettings) : Settings where
  authorizedProtocols := [.wireguardUdp, .wireguardTcp, .stealth]
  sessionSettings := sessionSettings

/-- `STATS_SELECTORS`. -/
def statsSelectors : List LocalAgentSelector :=
  [.statsBytesSent, .statsBytesReceived, .statsNetshieldBlockCountAds,
    .statsNetshieldBlockCountMalicious, .statsNetshieldBlockCountTracking,
    .statsNetshieldBlockCountAdult]

/-- `STREAM_BUFFER_SIZE`. -/
def streamBufferSize : Nat := 65536

/-- `buf[offset..offset + len]`, which panics out of bounds. -/
def slice? (buf : Bytes) (offset len : Nat) : Option Bytes :=
  if offset + len ≤ buf.length then some ((buf.drop offset).take len) else none

/-- `as_millis() as i64`. -/
def asMillisI64 (t : Duration) : Int := Int.bmod (t / 1000000) UInt64.size

/-! ## State, environment, observations -/

/-- The fields of `PvpnConnection` that are not in `PvpnDependencies`. -/
structure PvpnConnection (S F : Type) where
  streams : S
  connectionState : ConnectionState
  peers : SanitizedPeers
  streamReadBuffer : Bytes
  shouldStop : Bool
  currentTunError : Option InterfaceError
  networkRecoveryHandler : NetworkRecoveryHandler
  pcapStream : Option (PcapStream F)
  localAgentSettings : Option LocalAgentSettings
  localAgentHandler : Option LocalAgentHandler

/-- The world outside the connection thread. -/
structure PvpnDependencies (E S X F : Type) where
  client : PvpnClient E
  streams : Streams E S X
  ids : ReservedIds
  fs : Fs E F
  /-- The `android` feature. -/
  android : Bool
  /-- `message_receiver.try_recv().ok()`. -/
  tryRecv : E → Option PvpnMessage × E
  onStateChanged : VpnState → E → E
  onEvent : Event → E → E
  cachePut : CacheKey → Bytes → E → E
  realtimeClock : E → Duration × E

/-- What a run does that can be seen from outside, in order. -/
inductive Obs where
  | recv (message : Option PvpnMessage)
  | tunnelInfo (info : Option TunnelInfo)
  | stateChanged (state : VpnState)
  | event (event : Event)
  | peerAdd (peer : Peer)
  | peerRemove (addr : PeerAddr)
  | setSettings (settings : Settings)
  | notifyNetworkChange
  | notifyNetworkDown
  | setPacketCaptureEnabled (enabled : Bool)
  | pushLocalAgent (action : LocalAgentAction)
  | pulled (action : Option Action)
  | pulledLocalAgent (message : Option LocalAgentMessage)
  | push (action : Action)
  | pushError (streamId : StreamId) (kind : ErrorKind)
  | cachePut (key : CacheKey) (data : Bytes)
  | pcapWrite (file : PcapFileInfo) (data : Bytes)
  | opened (streamId : StreamId) (target : OpenStream) (result : Except IoError Unit)
  | closed (streamId : StreamId)
  | shutdown (streamId : StreamId)
  | tunUpdated (info : TunStreamInfo) (result : Except IoError Unit)
  | read (streamId : StreamId) (result : StreamResult)
  | wrote (streamId : StreamId) (result : StreamResult)
  | handled (streamId : StreamId) (result : StreamResult)
  | polling (deadline : Option Duration)
  | polled (result : Except IoError (List PollResult))
  | updated (info : Option TunnelInfo)
  | loopEnd

/-- The connection and its environment. -/
structure Sys (E S F : Type) where
  env : E
  conn : PvpnConnection S F

/-- A piece of the connection thread. -/
abbrev Conn (E S F α : Type) := Prog (Sys E S F) Obs α

namespace Conn

variable {E S F α : Type}

/-- The connection's fields. -/
def conn : Conn E S F (PvpnConnection S F) := fun h => (some h.now.conn, h)

theorem conn_bind {β : Type} (f : PvpnConnection S F → Conn E S F β) (h : Hist (Sys E S F) Obs) :
    (conn >>= f) h = f h.now.conn h := rfl

theorem triple_conn_bind {β : Type} {P N : Hist (Sys E S F) Obs → Prop}
    {f : PvpnConnection S F → Conn E S F β} {Q : β → Hist (Sys E S F) Obs → Prop}
    (hf : ∀ c, Prog.Triple (fun h => P h ∧ h.now.conn = c) (f c) Q N) :
    Prog.Triple P (conn >>= f) Q N :=
  fun h hP => hf h.now.conn h ⟨hP, rfl⟩

/-- Assign to the connection's fields. -/
def update (f : PvpnConnection S F → PvpnConnection S F) : Conn E S F Unit :=
  Prog.modify fun s => { s with conn := f s.conn }

/-- Call something outside the thread that nobody needs to see. -/
def query (f : E → α × E) : Conn E S F α :=
  fun h => (some (f h.now.env).1, h.set { h.now with env := (f h.now.env).2 })

/-- Call something outside the thread and observe its answer. -/
def ask (o : α → Obs) (f : E → α × E) : Conn E S F α := do
  let a ← query f
  Prog.emit (o a)
  pure a

theorem ask_eq (o : α → Obs) (f : E → α × E) (h : Hist (Sys E S F) Obs) :
    ask o f h = (some (f h.now.env).1,
      (h.set { h.now with env := (f h.now.env).2 }).emit (o (f h.now.env).1)) := rfl

/-- Call something outside the thread that answers nothing. -/
def inform (o : Obs) (f : E → E) : Conn E S F Unit := do
  Prog.emit o
  Prog.modify fun s => { s with env := f s.env }

/-- Call a method of the set of streams. -/
def streamsDo (f : S → E → α × S × E) : Conn E S F α :=
  fun h =>
    let r := f h.now.conn.streams h.now.env
    (some r.1, h.set { env := r.2.2, conn := { h.now.conn with streams := r.2.1 } })

end Conn

namespace PvpnConnection

open Conn

variable {E S X F : Type} (d : PvpnDependencies E S X F)

/-! ## State changes -/

/-- `PvpnConnection::set_state`. -/
def setState (state : ConnectionState) : Conn E S F Unit := do
  let c ← conn
  Prog.when (state ≠ c.connectionState) do
    update fun c => { c with connectionState := state }
    let vpnState : VpnState := {
      interfaceState := d.streams.getTunInterfaceState c.streams c.currentTunError
      connectionState := state }
    inform (.stateChanged vpnState) (d.onStateChanged vpnState)

/-- `PvpnConnection::emit_event`. -/
def emitEvent (event : Event) : Conn E S F Unit := inform (.event event) (d.onEvent event)

/-- `PvpnConnection::get_peer_connection_state`. In local-agent mode a connected tunnel is reported
to the handler, so the connection after the call is returned as well. -/
def getPeerConnectionState (tunnelInfo : Option TunnelInfo) (c : PvpnConnection S F) :
    ConnectionState × PvpnConnection S F :=
  if ¬ c.networkRecoveryHandler.networkAvailable then (networkUnavailableState tunnelInfo, c)
  else
    match tunnelInfo with
    | some (.connected protocol peer peerAddr) =>
      let info := getPeerConnectionInfo peer peerAddr protocol
      match c.localAgentHandler with
      | some handler =>
        let handler := handler.onConnectedToPeer info
        (handler.getState info, { c with localAgentHandler := some handler })
      | none => (.connected info none, c)
    | some (.connecting protocol peer peerAddr) =>
      (.connecting [getPeerConnectionInfo peer peerAddr protocol] [], c)
    | some .disconnected =>
      if ¬ c.peers.isEmpty then (.connecting [] [], c) else (.disconnected none, c)
    | none => (.disconnected none, c)

/-- The last lines of `update_state`. -/
def noteConnected (c : PvpnConnection S F) : PvpnConnection S F :=
  match c.connectionState with
  | .connected .. => { c with networkRecoveryHandler := c.networkRecoveryHandler.onConnected }
  | _ => c

/-- `PvpnConnection::update_state`. -/
def updateState : Conn E S F Unit := do
  let info ← ask .tunnelInfo d.client.getTunnelInfo
  let c ← conn
  let r := c.getPeerConnectionState info
  update fun _ => r.2
  setState d r.1
  update noteConnected
  Prog.emit (.updated info)

/-! ## Packet capture -/

/-- `PvpnConnection::start_packet_capture`. -/
def startPacketCapture (fileInfo : PcapFileInfo) : Conn E S F Unit := do
  match ← query (PcapStream.new d.fs fileInfo) with
  | .ok stream =>
    let c ← conn
    update fun c => { c with pcapStream := some stream }
    query fun e => ((), PcapStream.dropOld d.fs c.pcapStream e)
    inform (.setPacketCaptureEnabled true) (d.client.setPacketCaptureEnabled true)
    emitEvent d (.packetCaptureStarted fileInfo)
  | .error _ => pure ()

/-- `PvpnConnection::stop_packet_capture`. -/
def stopPacketCapture (reason : PcapFileInfo → CaptureStopReason) : Conn E S F Unit := do
  inform (.setPacketCaptureEnabled false) (d.client.setPacketCaptureEnabled false)
  let c ← conn
  match c.pcapStream with
  | some stream =>
    update fun c => { c with pcapStream := none }
    query fun e => ((), PcapStream.dropOld d.fs c.pcapStream e)
    emitEvent d (.packetCaptureStopped (reason stream.fileInfo))
  | none => emitEvent d (.packetCaptureStopped .alreadyStopped)

/-! ## Actions of the client -/

/-- `self.client.push(action)`. -/
def push (action : Action) : Conn E S F Unit := inform (.push action) (d.client.push action)

/-- `PvpnConnection::handle_stream_error`. -/
def handleStreamError (streamId : StreamId) (e : IoError) : Conn E S F Unit :=
  -- only the errors of sockets concern the client
  Prog.when (d.ids.tun < streamId) do
    let now ← query d.client.monotonicNow
    update fun c => { c with
      networkRecoveryHandler := c.networkRecoveryHandler.onStreamError e.kind now }
    inform (.pushError streamId e.kind) (d.client.pushError streamId e.kind)

/-- `self.streams.set_poll_enable_wait_for_write(stream_id, wait)`. -/
def setPollEnableWaitForWrite (streamId : StreamId) (wait : Bool) : Conn E S F Unit :=
  streamsDo fun s e => ((), d.streams.setPollEnableWaitForWrite streamId wait s e)

/-- `if stream_id == TUN_STREAM_ID { self.current_tun_error = to_tun_error(res) }`. -/
def noteTunResult (streamId : StreamId) (res : StreamResult) : Conn E S F Unit :=
  Prog.when (streamId = d.ids.tun) (update fun c => { c with currentTunError := toTunError res })

/-- The `match res` of `handle_stream_write_result`. -/
def dispatchWriteResult (streamId : StreamId) (res : StreamResult) : Conn E S F Unit :=
  match res with
  | .ok _ _ _ pendingWrite => do
    setPollEnableWaitForWrite d streamId (pendingWrite = .yes)
    Prog.when (pendingWrite = .no ∧ d.ids.tun < streamId) (push d ⟨streamId, .done⟩)
  | .err e => handleStreamError d streamId e
  | .streamClosed => push d ⟨streamId, .close⟩

/-- `PvpnConnection::handle_stream_write_result`. -/
def handleStreamWriteResult (streamId : StreamId) (res : StreamResult) : Conn E S F Unit := do
  Prog.emit (.wrote streamId res)
  noteTunResult d streamId res
  dispatchWriteResult d streamId res
  Prog.emit (.handled streamId res)

/-- Call a method of the stream `stream` that `get_stream` lent for `streamId`. -/
def streamDo {α : Type} (streamId : StreamId) (stream : X) (f : X → E → Option (α × X × E)) :
    Conn E S F α := fun h =>
  match f stream h.now.env with
  | some r => (some r.1, h.set { env := r.2.2, conn := { h.now.conn with
      streams := d.streams.setStream h.now.conn.streams streamId r.2.1 } })
  | none => (none, h)

/-- A write on the stream `streamId`, if there is one, and the handling of its result. The write
is `stream.write(data)` or `stream.write_from_buffer()`. -/
def writeStream (streamId : StreamId) (write : X → E → Option (StreamResult × X × E)) :
    Conn E S F Unit := do
  let c ← conn
  match d.streams.getStream c.streams streamId with
  | some stream =>
    let res ← streamDo d streamId stream write
    handleStreamWriteResult d streamId res
  | none => pure ()

/-- The arm of `PCAP_STREAM_ID` in `handle_write`. -/
def writePcap (data : Bytes) : Conn E S F Unit := do
  let c ← conn
  match c.pcapStream with
  | some stream =>
    Prog.emit (.pcapWrite stream.fileInfo data)
    let stream ← query (PcapStream.write d.fs data stream)
    update fun c => { c with pcapStream := some stream }
    Prog.when stream.atMaxSize (stopPacketCapture d .maxSizeReached)
  | none => pure ()

/-- `self.cache.put(key, data)`. -/
def putCache (key : CacheKey) (data : Bytes) : Conn E S F Unit :=
  inform (.cachePut key data) (d.cachePut key data)

/-- `PvpnConnection::handle_write`. -/
def handleWrite (streamId : StreamId) (data : Bytes) : Conn E S F Unit :=
  if streamId = d.ids.pcap then writePcap d data
  else if streamId = d.ids.privkey then putCache d .privateKey data
  else if streamId = d.ids.cert then putCache d .certificate data
  else if streamId = d.ids.muonAuth then putCache d .apiSession data
  else writeStream d streamId fun stream => d.streams.write stream data

/-- The call of `open_new_udp_stream` or `open_new_tcp_stream`. -/
def openStream (streamId : StreamId) (target : OpenStream) : Conn E S F (Except IoError Unit) :=
  streamsDo fun s e =>
    if target.kind = .udp then d.streams.openNewUdpStream streamId target.addr s e
    else d.streams.openNewTcpStream streamId target.addr s e

/-- `PvpnConnection::handle_open`. -/
def handleOpen (streamId : StreamId) (target : OpenStream) : Conn E S F Unit := do
  let result ← openStream d streamId target
  Prog.emit (.opened streamId target result)
  match result with
  | .ok () => do
    update fun c => { c with
      networkRecoveryHandler := c.networkRecoveryHandler.onSuccessfulSocketOpen }
    Prog.when (target.kind ≠ .udp) (setPollEnableWaitForWrite d streamId true)
  | .error e => handleStreamError d streamId e

/-- `stream.shutdown_write()` on the stream `streamId`, if there is one. -/
def shutdownWrite (streamId : StreamId) : Conn E S F Unit := do
  let c ← conn
  match d.streams.getStream c.streams streamId with
  | some stream =>
    streamDo d streamId stream fun x e => some ((), d.streams.shutdownWrite x e)
    Prog.emit (.shutdown streamId)
  | none => pure ()

/-- `self.streams.close_stream(stream_id)`. -/
def closeStream (streamId : StreamId) : Conn E S F Unit := do
  streamsDo fun s e => ((), d.streams.closeStream streamId s e)
  Prog.emit (.closed streamId)

/-- The `match kind` of `pull_from_client`. -/
def handleAction (action : Action) : Conn E S F Unit :=
  match action.kind with
  | .openStream target firstWrite => do
    handleOpen d action.streamId target
    match firstWrite with
    | some data => handleWrite d action.streamId data
    | none => pure ()
  | .write data => handleWrite d action.streamId data
  -- `set_option` is the default method of the trait, which does nothing
  | .setOption => pure ()
  | .close => closeStream d action.streamId
  | .shutdown => shutdownWrite d action.streamId
  | .read _ | .error _ | .done => pure ()

/-- One round of the first loop of `pull_from_client`. -/
def pullAction : Conn E S F Bool := do
  if ← query d.client.needPull then
    match ← ask .pulled d.client.pull with
    | some action => do
      handleAction d action
      pure true
    | none => pure true
  else pure false

/-- One round of the second loop of `pull_from_client`. -/
def pullLocalAgent : Conn E S F Bool := do
  match ← ask .pulledLocalAgent d.client.pullLocalAgent with
  | none => pure false
  | some message =>
    let c ← conn
    match c.localAgentHandler with
    | none => pure true
    | some handler =>
      let r := handler.handleMessage message
      update fun c => { c with localAgentHandler := some r.2 }
      Prog.forEach r.1.toList (emitEvent d)
      pure true

/-- `PvpnConnection::pull_from_client`. -/
def pullFromClient (n : Nat) : Conn E S F Unit := do
  Prog.loop n (pullAction d)
  let c ← conn
  -- nothing is pulled from the local agent outside local-agent mode
  Prog.when c.localAgentHandler.isSome (Prog.loop n (pullLocalAgent d))

end PvpnConnection

end Protun
