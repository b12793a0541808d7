import Protun.Connection.Run

/-!
# A world that answers from a script

`scripted` is a `PvpnDependencies` whose client, streams and channel answer what a `Script` says,
one answer per call, in the manner of the dummy client of the repository's tests. It gives concrete
runs: every list is consumed from the front and an exhausted list answers as an idle world does
(no message, no tunnel, nothing to pull, nothing readable).

The streams are those of an open TUN device: `get_tun_interface_state` answers
`Up { error }`, as `MioStreams` and `WindowsStreams` do while a TUN is there.
-/

namespace Protun

open Trace

/-- What the world is going to answer. -/
structure Script where
  /-- Answers of `try_recv`. -/
  messages : List (Option PvpnMessage) := []
  /-- Answers of `get_tunnel_info`. -/
  tunnels : List (Option TunnelInfo) := []
  /-- Actions to be pulled; at a `none` the client needs no pull. -/
  actions : List (Option Action) := []
  /-- Answers of `pull_local_agent`. -/
  agent : List (Option LocalAgentMessage) := []
  /-- Answers of `poll`. -/
  polls : List (List PollResult) := []
  /-- Answers of `read`, with the content of the buffer. -/
  reads : List (StreamResult × Bytes) := []
  /-- Answers of `write` and `write_from_buffer`. -/
  writes : List StreamResult := []

namespace Script

/-- The first answer, or `idle` if there is none left. -/
def pop {α : Type} (idle : α) : List α → α × List α
  | [] => (idle, [])
  | a :: as => (a, as)

def recv (e : Script) : Option PvpnMessage × Script :=
  ((pop none e.messages).1, { e with messages := (pop none e.messages).2 })

def tunnelInfo (e : Script) : Option TunnelInfo × Script :=
  ((pop none e.tunnels).1, { e with tunnels := (pop none e.tunnels).2 })

def needPull (e : Script) : Bool × Script :=
  match e.actions with
  | some _ :: _ => (true, e)
  | none :: actions => (false, { e with actions })
  | [] => (false, e)

def pull (e : Script) : Option Action × Script :=
  ((pop none e.actions).1, { e with actions := (pop none e.actions).2 })

def pullLocalAgent (e : Script) : Option LocalAgentMessage × Script :=
  ((pop none e.agent).1, { e with agent := (pop none e.agent).2 })

def poll (e : Script) : Except IoError (List PollResult) × Unit × Script :=
  (.ok (pop [] e.polls).1, (), { e with polls := (pop [] e.polls).2 })

def read (buf : Bytes) (e : Script) : (StreamResult × Bytes) × Unit × Script :=
  let (result, reads) := pop (.okAt0 0 .yes .no, buf) e.reads
  (result, (), { e with reads })

def write (e : Script) : Option (StreamResult × Unit × Script) :=
  let (result, writes) := pop (.okAt0 0 .no .no) e.writes
  some (result, (), { e with writes })

/-- The client of the script. What is pushed to it is ignored. -/
def client : PvpnClient Script where
  setCurrentTime e := (0, e)
  needPull := needPull
  peerAdd _ e := e
  peerRemove _ e := e
  pull := pull
  push _ e := e
  pushError _ _ e := e
  getTunnelInfo := tunnelInfo
  wakeupDeadline e := (none, e)
  notifyNetworkChange e := e
  notifyNetworkDown e := e
  getStats e := (none, e)
  monotonicNow e := (0, e)
  setPacketCaptureEnabled _ e := e
  setSettings _ e := e
  pullLocalAgent := pullLocalAgent
  pushLocalAgent _ e := e

/-- The streams of the script: every stream is open. -/
def streams : Streams Script Unit Unit where
  read _ buf e := read buf e
  write _ _ e := write e
  writeFromBuffer _ e := write e
  shutdownWrite _ e := ((), e)
  getStream _ _ := some ()
  setStream _ _ _ := ()
  openNewTcpStream _ _ _ e := (.ok (), (), e)
  openNewUdpStream _ _ _ e := (.ok (), (), e)
  closeStream _ _ e := ((), e)
  poll _ _ e := poll e
  setPollEnableWaitForWrite _ _ _ e := ((), e)
  updateTun _ _ e := (.ok (), (), e)
  getTunInterfaceState _ error := .up error

/-- A file system on which every call succeeds. -/
def fs : Fs Script Unit where
  parent _ := none
  createDirAll _ e := (.ok (), e)
  openFile _ _ e := (.ok (), e)
  fromRawFd _ := ()
  len _ e := (.ok 0, e)
  writeAll _ _ e := (.ok (), e)
  syncAll _ e := (.ok (), e)

end Script

/-- The world of a script. -/
def scripted : PvpnDependencies Script Unit Unit Unit where
  client := Script.client
  streams := Script.streams
  ids := { tun := 0, pcap := -1, privkey := -2, cert := -3, muonAuth := -4 }
  fs := Script.fs
  android := false
  tryRecv := Script.recv
  onStateChanged _ e := e
  onEvent _ e := e
  cachePut _ _ e := e
  realtimeClock e := (0, e)

namespace Script

/-- What is observed in the run of a script. -/
abbrev log (cfg : InitialConfig) (script : Script) (n : Nat) :
    List (Obs × Sys Script Unit Unit) :=
  (PvpnConnection.exec scripted cfg () script n).2.past

/-- A configuration without peers and without a local agent, with the network available. -/
def plainConfig : InitialConfig where
  peers := []
  networkAvailable := true
  pcapFile := none
  localAgentSettings := none

/-- The same in local-agent mode. -/
def agentConfig : InitialConfig := { plainConfig with localAgentSettings := some {} }

/-- A peer with the given tag. -/
def peer (tag : String) : Peer where
  addr := .ipv4 0x01020304
  publicKey := Vector.replicate 32 0
  tag := some tag
  udpPorts := []
  tcpPorts := []
  tlsPorts := []
  priority := 0
  bouncingLabels := []

/-- A tunnel connected to the peer with the given tag. -/
def tunnel (tag : String) : Option TunnelInfo :=
  some (.connected .wireguardUdp (peer tag) ⟨.v4 0x01020304, 51820⟩)

end Script

end Protun
