import Protun.Connection.Model

/-!
# The connection loop (`pvpn_connection.rs`)

The rest of `PvpnConnection`: messages from the API, polling and reading the streams, the loop and
the constructor. `exec` is a whole run, the constructor followed by the loop.
-/

namespace Protun

open Trace

namespace PvpnConnection

open Conn

variable {E S X F : Type} (d : PvpnDependencies E S X F)

/-! ## Messages -/

/-- `PvpnConnection::on_connectivity_change`. -/
def onConnectivityChange (event : ConnectivityEvent) (tunnelInfo : Option TunnelInfo) :
    Conn E S F Unit := do
  update fun c => { c with
    networkRecoveryHandler := c.networkRecoveryHandler.onConnectivityChange event }
  let c ← conn
  if c.networkRecoveryHandler.networkAvailable then
    inform .notifyNetworkChange d.client.notifyNetworkChange
  else do
    inform .notifyNetworkDown d.client.notifyNetworkDown
    setState d (networkUnavailableState tunnelInfo)

/-- `self.client.set_settings(pvpn_settings(settings.into()))`. -/
def giveSettings (settings : LocalAgentSettings) : Conn E S F Unit :=
  inform (.setSettings (pvpnSettings settings.toSession))
    (d.client.setSettings (pvpnSettings settings.toSession))

/-- `PvpnConnection::update_local_agent_settings`. -/
def updateLocalAgentSettings (settings : LocalAgentSettings) : Conn E S F Unit := do
  let c ← conn
  match c.localAgentSettings with
  | some currentSettings =>
    Prog.when (currentSettings ≠ settings) do
      update fun c => { c with localAgentSettings := some settings }
      giveSettings d settings
  | none => pure ()

/-- `self.client.peer_remove(old_peer.addr())`, unless the new list contains the peer. -/
def removeUnless (newPeers : SanitizedPeers) (oldPeer : PeerInfo) : Conn E S F Unit :=
  Prog.when (¬ newPeers.contains oldPeer)
    (inform (.peerRemove oldPeer.addr) (d.client.peerRemove oldPeer.addr))

/-- `self.client.peer_add(peer.as_peer())`. -/
def addPeer (peer : PeerInfo) : Conn E S F Unit :=
  inform (.peerAdd peer.asPeer) (d.client.peerAdd peer.asPeer)

/-- `PvpnConnection::update_peers`. -/
def updatePeers (newPeers : SanitizedPeers) : Conn E S F Unit := do
  let c ← conn
  Prog.when (c.peers ≠ newPeers) do
    Prog.forEach c.peers.list (removeUnless d newPeers)
    Prog.forEach newPeers.list fun newPeer =>
      Prog.when (¬ c.peers.contains newPeer) (addPeer d newPeer)
    update fun c => { c with peers := newPeers }

/-- `PvpnConnection::update_tun`. -/
def updateTun (tunInfo : TunStreamInfo) : Conn E S F Unit := do
  let result ← streamsDo (d.streams.updateTun tunInfo)
  Prog.emit (.tunUpdated tunInfo result)
  match result with
  | .error _ => pure ()
  | .ok () => update fun c => { c with currentTunError := none }

/-- `if let Some(a) = x { f(a) }`. -/
def ifSome {α : Type} (x : Option α) (f : α → Conn E S F Unit) : Conn E S F Unit :=
  match x with
  | some a => f a
  | none => pure ()

/-- The arm of `PvpnMessage::Update`. -/
def handleUpdate (u : ConfigUpdate) : Conn E S F Unit := do
  ifSome u.peers fun peers => updatePeers d (SanitizedPeers.fromPeers peers)
  ifSome u.settings (updateLocalAgentSettings d)
  ifSome u.tun (updateTun d)

/-- The arm of `PvpnMessage::RequestStats`. -/
def requestStats : Conn E S F Unit := do
  match ← query d.client.getStats with
  | some stats =>
    let now ← query d.realtimeClock
    emitEvent d (.connectionStats (asMillisI64 now) stats)
  | none => pure ()

/-- `self.client.push_local_agent(action)`. -/
def pushLocalAgent (action : LocalAgentAction) : Conn E S F Unit :=
  inform (.pushLocalAgent action) (d.client.pushLocalAgent action)

/-- The arms of `handle_messages` that go on with the next message. -/
def handleMessage : PvpnMessage → Conn E S F Unit
  | .disconnect => update fun c => { c with shouldStop := true }
  | .connectivityChange event => do
    let tunnelInfo ← ask .tunnelInfo d.client.getTunnelInfo
    onConnectivityChange d event tunnelInfo
  | .startPacketCapture fileInfo => startPacketCapture d fileInfo
  | .stopPacketCapture => stopPacketCapture d .request
  | .requestStats => requestStats d
  | .update u => handleUpdate d u
  | .provideApiForkSelector info =>
    pushLocalAgent d (.provideAuthForkSelector info.selector info.cookies)
  | .requestLocalAgentStats =>
    Prog.forEach statsSelectors fun selector => pushLocalAgent d (.get selector)

/-- One round of the loop of `handle_messages`: `Disconnect` breaks out of it. -/
def receiveMessage : Conn E S F Bool := do
  match ← ask .recv d.tryRecv with
  | none => pure false
  | some message => do
    handleMessage d message
    pure (message ≠ .disconnect)

/-- `PvpnConnection::handle_messages`. -/
def handleMessages (n : Nat) : Conn E S F Bool := do
  Prog.loop n (receiveMessage d)
  let c ← conn
  pure (!c.shouldStop)

/-! ## Polling and reading -/

/-- `PvpnConnection::poll_deadline`. -/
def pollDeadline : Conn E S F (Option Duration) := do
  let pvpnDelay ← query d.client.wakeupDeadline
  let c ← conn
  if c.networkRecoveryHandler.wantsWakeup then do
    let now ← query d.client.monotonicNow
    pure <|
      match c.networkRecoveryHandler.wakeupDelay now, pvpnDelay with
      | some networkHandlerDelay, none => some networkHandlerDelay
      | some networkHandlerDelay, some pvpnDelay => some (min pvpnDelay networkHandlerDelay)
      | none, pvpnDelay => pvpnDelay
  else pure pvpnDelay

/-- `stream.read(&mut self.stream_read_buffer[..])`. -/
def readInto (streamId : StreamId) (stream : X) : Conn E S F StreamResult := do
  let c ← conn
  let r ← streamDo d streamId stream fun x e => some (d.streams.read x c.streamReadBuffer e)
  update fun c => { c with streamReadBuffer := r.2 }
  Prog.emit (.read streamId r.1)
  pure r.1

/-- `self.client.push(Action::read(id, self.stream_read_buffer[range].to_vec()))`. -/
def pushRead (streamId : StreamId) (startOffset bytesRead : Nat) : Conn E S F Unit := do
  let c ← conn
  match slice? c.streamReadBuffer startOffset bytesRead with
  | some data => push d ⟨streamId, .read data⟩
  | none => Prog.stall

/-- The `match read_result` of `read_from_streams`: whether the stream is to be read again. -/
def handleReadResult (n : Nat) (streamId : StreamId) (res : StreamResult) : Conn E S F Bool :=
  match res with
  | .ok bytesRead startOffset wouldBlock _ => do
    let c ← conn
    -- without a network the data is dropped
    Prog.when (0 < bytesRead ∧ c.networkRecoveryHandler.networkAvailable) do
      pushRead d streamId startOffset bytesRead
      pullFromClient d n
    pure (wouldBlock = .no && 0 < bytesRead)
  | .err e => do
    handleStreamError d streamId e
    pure false
  | .streamClosed => do
    push d ⟨streamId, .close⟩
    pure false

/-- One round of the inner loop of `read_from_streams`. -/
def readStream (n : Nat) (streamId : StreamId) : Conn E S F Bool := do
  let c ← conn
  match d.streams.getStream c.streams streamId with
  | some stream => do
    let res ← readInto d streamId stream
    noteTunResult d streamId res
    handleReadResult d n streamId res
  | none => pure false

/-- The inner loop of `read_from_streams`: the `next_stream_ids`. -/
def readRound (n : Nat) : List StreamId → Conn E S F (List StreamId)
  | [] => pure []
  | streamId :: streamIds => do
    let again ← readStream d n streamId
    let next ← readRound n streamIds
    pure (if again then streamId :: next else next)

/-- The outer loop of `read_from_streams`, at most `fuel` rounds. -/
def readRounds (n : Nat) : Nat → List StreamId → Conn E S F Unit
  | _, [] => pure ()
  | 0, _ :: _ => Prog.stall
  | fuel + 1, streamId :: streamIds => do
    let next ← readRound d n (streamId :: streamIds)
    readRounds n fuel next

/-- `PvpnConnection::read_from_streams`. -/
def readFromStreams (n : Nat) (streamIds : List StreamId) : Conn E S F Unit :=
  readRounds d n n streamIds

/-- `PvpnConnection::handle_poll_results`. The readable streams are collected while the writes are
made; no write changes which results are readable. -/
def handlePollResults (n : Nat) (results : List PollResult) : Conn E S F Unit := do
  Prog.forEach results fun res =>
    Prog.when res.isWritable (writeStream d res.streamId d.streams.writeFromBuffer)
  readFromStreams d n ((results.filter (·.isReadable)).map (·.streamId))

/-- `self.streams.poll(self.poll_deadline())`. -/
def waitForStreams : Conn E S F (Except IoError (List PollResult)) := do
  let deadline ← pollDeadline d
  Prog.emit (.polling deadline)
  let results ← streamsDo (d.streams.poll deadline)
  Prog.emit (.polled results)
  pure results

/-- The clock is set and a delayed network change may be due. -/
def onResumed : Conn E S F Unit := do
  let now ← query d.client.setCurrentTime
  let c ← conn
  let r := c.networkRecoveryHandler.onResumed now
  update fun c => { c with networkRecoveryHandler := r.2 }
  Prog.when r.1 (inform .notifyNetworkChange d.client.notifyNetworkChange)

/-- `PvpnConnection::poll_from_streams`. -/
def pollFromStreams (n : Nat) : Conn E S F Unit := do
  let pollResults ← waitForStreams d
  onResumed d
  match pollResults with
  | .ok results => handlePollResults d n results
  | .error _ => pure ()

/-! ## The loop -/

/-- `PvpnConnection::on_connection_loop_end`. -/
def onConnectionLoopEnd : Conn E S F Unit := do
  Prog.emit .loopEnd
  let c ← conn
  Prog.when c.pcapStream.isSome (stopPacketCapture d .disconnected)
  let c ← conn
  match c.connectionState with
  | .disconnected _ => pure ()
  | _ => setState d (.disconnected none)

/-- One round of the loop of `run`. -/
def iteration (n : Nat) : Conn E S F Bool := do
  if ← handleMessages d n then do
    let _ ← query d.client.setCurrentTime
    pullFromClient d n
    updateState d
    pollFromStreams d n
    pure true
  else pure false

/-- `PvpnConnection::run`. -/
def run (n : Nat) : Conn E S F Unit := do
  Prog.loop n (iteration d n)
  onConnectionLoopEnd d

/-- The struct built at the start of `PvpnConnection::new`. -/
def initial (cfg : InitialConfig) (streams : S) : PvpnConnection S F where
  streams := streams
  connectionState := .disconnected none
  peers := SanitizedPeers.fromPeers cfg.peers
  streamReadBuffer := List.replicate streamBufferSize 0
  shouldStop := false
  currentTunError := none
  networkRecoveryHandler := NetworkRecoveryHandler.new d.android cfg.networkAvailable
  pcapStream := none
  localAgentSettings := cfg.localAgentSettings
  localAgentHandler :=
    match cfg.localAgentSettings with
    | none => none
    | some _ => some {}

/-- The network part of `PvpnConnection::new`. -/
def announceNetwork : Conn E S F Unit := do
  let c ← conn
  Prog.when (¬ c.networkRecoveryHandler.networkAvailable) do
    inform .notifyNetworkDown d.client.notifyNetworkDown
    setState d (.connecting [] [.waitingForNetwork])

/-- The local-agent part of `PvpnConnection::new`. -/
def watchLocalAgent (settings : LocalAgentSettings) : Conn E S F Unit := do
  Prog.forEach LocalAgentHandler.localAgentSelectorsToWatch fun selector =>
    pushLocalAgent d (.watch selector)
  giveSettings d settings

/-- What `PvpnConnection::new` does once the struct is built. -/
def new (cfg : InitialConfig) : Conn E S F Unit := do
  let c ← conn
  Prog.forEach c.peers.list (addPeer d)
  announceNetwork d
  ifSome cfg.pcapFile (startPacketCapture d)
  ifSome cfg.localAgentSettings (watchLocalAgent d)

/-- A whole run from the streams `streams` and the environment `env`: the constructor, then at
most `n` rounds of every loop. The answer is `some ()` when the connection thread has ended. -/
def exec (cfg : InitialConfig) (streams : S) (env : E) (n : Nat) :
    Option Unit × Hist (Sys E S F) Obs :=
  (do new d cfg; run d n : Conn E S F Unit) (Hist.init ⟨env, initial d cfg streams⟩)

end PvpnConnection

end Protun
