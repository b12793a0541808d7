import Protun.Connection.Run

/-!
# The alphabet of the connection thread

Everything the connection thread does is a sequence of single interactions: it assigns to one of its
own fields, calls one of its dependencies, or makes one of its marks. `Letter d` lists them, each
with what it does to the environment and what is observed of it. One walk over the source shows that
every function is a word of this alphabet (`Letters d`). An invariant of the environment therefore
only has to be checked letter by letter, with no regard to when the thread makes which call.

To sleep is no letter: what is made of letters only never polls. `Sleeps` is the one step that a run
has besides (`Steps d`): the mark (`polling`) and the call of `poll`.

* **`exec_steps`**: a whole run is a sequence of letters and sleeps.
* `exec_inv`: so what all of these keep holds after every run.
-/

namespace Protun

open Trace

/-- What is observed without a call being made, other than that the thread goes to sleep. -/
def Obs.isMark : Obs → Bool
  | .pcapWrite .. | .opened .. | .closed _ | .shutdown _ | .tunUpdated .. | .read .. | .wrote ..
  | .handled .. | .polled _ | .updated _ | .loopEnd => true
  | _ => false

namespace PvpnConnection

open Conn

variable {E S X F α : Type}

/-! ## Letters -/

section Alphabet

variable (d : PvpnDependencies E S X F)

/-- The calls that nobody sees. -/
inductive Queries : (E → E) → Prop where
  | needPull : Queries fun e => (d.client.needPull e).2
  | setCurrentTime : Queries fun e => (d.client.setCurrentTime e).2
  | wakeupDeadline : Queries fun e => (d.client.wakeupDeadline e).2
  | monotonicNow : Queries fun e => (d.client.monotonicNow e).2
  | getStats : Queries fun e => (d.client.getStats e).2
  | realtimeClock : Queries fun e => (d.realtimeClock e).2
  | pcapNew (file : PcapFileInfo) : Queries fun e => (PcapStream.new d.fs file e).2
  | pcapWrite (data : Bytes) (stream : PcapStream F) :
      Queries fun e => (PcapStream.write d.fs data stream e).2
  | pcapDrop (stream : Option (PcapStream F)) : Queries (PcapStream.dropOld d.fs stream)

/-- The calls whose answer is observed. -/
inductive Asks : (E → Obs × E) → Prop where
  | recv : Asks fun e => (.recv (d.tryRecv e).1, (d.tryRecv e).2)
  | tunnelInfo : Asks fun e => (.tunnelInfo (d.client.getTunnelInfo e).1,
      (d.client.getTunnelInfo e).2)
  | pulled : Asks fun e => (.pulled (d.client.pull e).1, (d.client.pull e).2)
  | pulledLocalAgent : Asks fun e => (.pulledLocalAgent (d.client.pullLocalAgent e).1,
      (d.client.pullLocalAgent e).2)

/-- The calls whose arguments are observed. -/
inductive Informs : Obs → (E → E) → Prop where
  | stateChanged (state : VpnState) : Informs (.stateChanged state) (d.onStateChanged state)
  | event (event : Event) : Informs (.event event) (d.onEvent event)
  | peerAdd (peer : Peer) : Informs (.peerAdd peer) (d.client.peerAdd peer)
  | peerRemove (addr : PeerAddr) : Informs (.peerRemove addr) (d.client.peerRemove addr)
  | setSettings (settings : Settings) :
      Informs (.setSettings settings) (d.client.setSettings settings)
  | notifyNetworkChange : Informs .notifyNetworkChange d.client.notifyNetworkChange
  | notifyNetworkDown : Informs .notifyNetworkDown d.client.notifyNetworkDown
  | setPacketCaptureEnabled (enabled : Bool) :
      Informs (.setPacketCaptureEnabled enabled) (d.client.setPacketCaptureEnabled enabled)
  | pushLocalAgent (action : LocalAgentAction) :
      Informs (.pushLocalAgent action) (d.client.pushLocalAgent action)
  | push (action : Action) : Informs (.push action) (d.client.push action)
  | pushError (streamId : StreamId) (kind : ErrorKind) :
      Informs (.pushError streamId kind) (d.client.pushError streamId kind)
  | cachePut (key : CacheKey) (data : Bytes) : Informs (.cachePut key data) (d.cachePut key data)

/-- The calls of the set of streams, other than `poll`. -/
inductive StreamsCalls : (S → E → S × E) → Prop where
  | setPoll (streamId : StreamId) (wait : Bool) :
      StreamsCalls (d.streams.setPollEnableWaitForWrite streamId wait)
  | openUdp (streamId : StreamId) (addr : SocketAddr) :
      StreamsCalls fun s e => (d.streams.openNewUdpStream streamId addr s e).2
  | openTcp (streamId : StreamId) (addr : SocketAddr) :
      StreamsCalls fun s e => (d.streams.openNewTcpStream streamId addr s e).2
  | close (streamId : StreamId) : StreamsCalls (d.streams.closeStream streamId)
  | updateTun (info : TunStreamInfo) : StreamsCalls fun s e => (d.streams.updateTun info s e).2

/-- The calls of one stream. -/
inductive StreamCalls : (X → E → Option (X × E)) → Prop where
  | read (buf : Bytes) : StreamCalls fun x e => some (d.streams.read x buf e).2
  | write (data : Bytes) : StreamCalls fun x e => (d.streams.write x data e).map Prod.snd
  | writeFromBuffer : StreamCalls fun x e => (d.streams.writeFromBuffer x e).map Prod.snd
  | shutdownWrite : StreamCalls fun x e => some (d.streams.shutdownWrite x e)

/-- One interaction. -/
inductive Letter (h : Hist (Sys E S F) Obs) : Hist (Sys E S F) Obs → Prop where
  | assign (c : PvpnConnection S F) : Letter h (h.set { h.now with conn := c })
  | mark {o : Obs} (ho : o.isMark = true) : Letter h (h.emit o)
  | query {f : E → E} (hf : Queries d f) : Letter h (h.set { h.now with env := f h.now.env })
  | ask {f : E → Obs × E} (hf : Asks d f) :
      Letter h ((h.set { h.now with env := (f h.now.env).2 }).emit (f h.now.env).1)
  | inform {o : Obs} {f : E → E} (hf : Informs d o f) :
      Letter h ((h.emit o).set { h.now with env := f h.now.env })
  | streams {f : S → E → S × E} (hf : StreamsCalls d f) :
      Letter h (h.set
        ⟨(f h.now.conn.streams h.now.env).2,
          { h.now.conn with streams := (f h.now.conn.streams h.now.env).1 }⟩)
  | stream {f : X → E → Option (X × E)} {x x' : X} {e : E} (s : S) (hf : StreamCalls d f)
      (hx : f x h.now.env = some (x', e)) :
      Letter h (h.set ⟨e, { h.now.conn with streams := s }⟩)

/-- A word. -/
abbrev Letters : Hist (Sys E S F) Obs → Hist (Sys E S F) Obs → Prop :=
  Relation.ReflTransGen (Letter d)

/-- The thread polls its streams. -/
def sleep (deadline : Option Duration) (h : Hist (Sys E S F) Obs) : Hist (Sys E S F) Obs :=
  let r := d.streams.poll deadline h.now.conn.streams h.now.env
  (h.emit (.polling deadline)).set ⟨r.2.2, { h.now.conn with streams := r.2.1 }⟩

/-- The thread polls its streams until some deadline. -/
def Sleeps (h h' : Hist (Sys E S F) Obs) : Prop := ∃ deadline, h' = sleep d deadline h

/-- Letters and sleeps. -/
abbrev Steps : Hist (Sys E S F) Obs → Hist (Sys E S F) Obs → Prop :=
  Relation.ReflTransGen fun h h' => Letter d h h' ∨ Sleeps d h h'

end Alphabet

instance isPreorder_letters (d : PvpnDependencies E S X F) :
    IsPreorder (Hist (Sys E S F) Obs) (Letters d) where
  refl _ := .refl
  trans _ _ _ h₁ h₂ := h₁.trans h₂

instance isPreorder_steps (d : PvpnDependencies E S X F) :
    IsPreorder (Hist (Sys E S F) Obs) (Steps d) where
  refl _ := .refl
  trans _ _ _ h₁ h₂ := h₁.trans h₂

theorem steps_of_letters {d : PvpnDependencies E S X F} {x : Conn E S F α}
    (hx : Prog.Rel (Letters d) x) : Prog.Rel (Steps d) x :=
  fun h => (hx h).lift id fun _ _ => .inl

/-! ## Every function is a word -/

section Calls

variable {d : PvpnDependencies E S X F}

theorem letters_conn : Prog.Rel (Letters d) (conn : Conn E S F _) := fun _ => .refl

theorem letters_update (f : PvpnConnection S F → PvpnConnection S F) :
    Prog.Rel (Letters d) (update f : Conn E S F Unit) :=
  fun h => .single (.assign (f h.now.conn))

theorem letters_mark {o : Obs} (ho : o.isMark = true) :
    Prog.Rel (Letters d) (Prog.emit o : Conn E S F Unit) :=
  fun _ => .single (.mark ho)

theorem letters_query {f : E → α × E} (hf : Queries d fun e => (f e).2) :
    Prog.Rel (Letters d) (query f : Conn E S F α) :=
  fun _ => .single (.query hf)

theorem letters_ask {o : α → Obs} {f : E → α × E} (hf : Asks d fun e => (o (f e).1, (f e).2)) :
    Prog.Rel (Letters d) (ask o f : Conn E S F α) :=
  fun _ => .single (.ask hf)

theorem letters_inform {o : Obs} {f : E → E} (hf : Informs d o f) :
    Prog.Rel (Letters d) (inform o f : Conn E S F Unit) :=
  fun _ => .single (.inform hf)

theorem letters_streamsDo {f : S → E → α × S × E} (hf : StreamsCalls d fun s e => (f s e).2) :
    Prog.Rel (Letters d) (streamsDo f : Conn E S F α) :=
  fun _ => .single (.streams hf)

theorem letters_streamDo {f : X → E → Option (α × X × E)} (streamId : StreamId) (stream : X)
    (hf : StreamCalls d fun x e => (f x e).map Prod.snd) :
    Prog.Rel (Letters d) (streamDo d streamId stream f : Conn E S F α) := by
  intro h
  unfold streamDo
  split
  · next r hr => exact .single (.stream _ hf (by rw [hr]; rfl))
  · exact .refl

theorem letters_ifSome {x : Option α} {f : α → Conn E S F Unit}
    (hf : ∀ a, Prog.Rel (Letters d) (f a)) : Prog.Rel (Letters d) (ifSome x f) := by
  cases x with
  | none => exact Prog.rel_pure ()
  | some a => exact hf a

end Calls

variable (d : PvpnDependencies E S X F)

theorem letters_setState (state : ConnectionState) : Prog.Rel (Letters d) (setState d state) :=
  Prog.rel_bind letters_conn fun _ => Prog.rel_when fun _ =>
    Prog.rel_bind (letters_update _) fun _ => letters_inform (.stateChanged _)

theorem letters_emitEvent (event : Event) : Prog.Rel (Letters d) (emitEvent d event) :=
  letters_inform (.event event)

theorem letters_updateState : Prog.Rel (Letters d) (updateState d) := by
  refine Prog.rel_bind (letters_ask .tunnelInfo) fun info => ?_
  refine Prog.rel_bind letters_conn fun c => ?_
  refine Prog.rel_bind (letters_update _) fun _ => ?_
  refine Prog.rel_bind (letters_setState d _) fun _ => ?_
  exact Prog.rel_bind (letters_update _) fun _ => letters_mark rfl

theorem letters_dropOld (stream : Option (PcapStream F)) :
    Prog.Rel (Letters d) (query fun e => ((), PcapStream.dropOld d.fs stream e) :
      Conn E S F Unit) :=
  letters_query (.pcapDrop stream)

theorem letters_startPacketCapture (file : PcapFileInfo) :
    Prog.Rel (Letters d) (startPacketCapture d file) := by
  refine Prog.rel_bind (letters_query (.pcapNew file)) fun r => ?_
  cases r with
  | error e => exact Prog.rel_pure ()
  | ok stream =>
    refine Prog.rel_bind letters_conn fun c => ?_
    refine Prog.rel_bind (letters_update _) fun _ => ?_
    refine Prog.rel_bind (letters_dropOld d _) fun _ => ?_
    exact Prog.rel_bind (letters_inform (.setPacketCaptureEnabled true)) fun _ =>
      letters_emitEvent d _

theorem letters_stopPacketCapture (reason : PcapFileInfo → CaptureStopReason) :
    Prog.Rel (Letters d) (stopPacketCapture d reason) := by
  refine Prog.rel_bind (letters_inform (.setPacketCaptureEnabled false)) fun _ => ?_
  refine Prog.rel_bind letters_conn fun c => ?_
  cases c.pcapStream with
  | none => exact letters_emitEvent d _
  | some stream =>
    refine Prog.rel_bind (letters_update _) fun _ => ?_
    exact Prog.rel_bind (letters_dropOld d _) fun _ => letters_emitEvent d _

/-! ### Actions of the client -/

theorem letters_push (action : Action) : Prog.Rel (Letters d) (push d action) :=
  letters_inform (.push action)

theorem letters_handleStreamError (streamId : StreamId) (e : IoError) :
    Prog.Rel (Letters d) (handleStreamError d streamId e) :=
  Prog.rel_when fun _ => Prog.rel_bind (letters_query .monotonicNow) fun _ =>
    Prog.rel_bind (letters_update _) fun _ => letters_inform (.pushError streamId e.kind)

theorem letters_setPoll (streamId : StreamId) (wait : Bool) :
    Prog.Rel (Letters d) (setPollEnableWaitForWrite d streamId wait) :=
  letters_streamsDo (.setPoll streamId wait)

theorem letters_noteTunResult (streamId : StreamId) (res : StreamResult) :
    Prog.Rel (Letters d) (noteTunResult d streamId res) :=
  Prog.rel_when fun _ => letters_update _

theorem letters_dispatchWriteResult (streamId : StreamId) (res : StreamResult) :
    Prog.Rel (Letters d) (dispatchWriteResult d streamId res) := by
  cases res with
  | ok bytesCount startOffset wouldBlock pendingWrite =>
    exact Prog.rel_bind (letters_setPoll d _ _) fun _ => Prog.rel_when fun _ => letters_push d _
  | err e => exact letters_handleStreamError d streamId e
  | streamClosed => exact letters_push d _

theorem letters_handleStreamWriteResult (streamId : StreamId) (res : StreamResult) :
    Prog.Rel (Letters d) (handleStreamWriteResult d streamId res) := by
  refine Prog.rel_bind (letters_mark rfl) fun _ => ?_
  refine Prog.rel_bind (letters_noteTunResult d streamId res) fun _ => ?_
  exact Prog.rel_bind (letters_dispatchWriteResult d streamId res) fun _ => letters_mark rfl

theorem letters_writeStream (streamId : StreamId)
    {write : X → E → Option (StreamResult × X × E)}
    (hw : StreamCalls d fun x e => (write x e).map Prod.snd) :
    Prog.Rel (Letters d) (writeStream d streamId write) := by
  refine Prog.rel_bind letters_conn fun c => ?_
  cases d.streams.getStream c.streams streamId with
  | none => exact Prog.rel_pure ()
  | some stream =>
    exact Prog.rel_bind (letters_streamDo streamId stream hw) fun res =>
      letters_handleStreamWriteResult d streamId res

theorem letters_writePcap (data : Bytes) : Prog.Rel (Letters d) (writePcap d data) := by
  refine Prog.rel_bind letters_conn fun c => ?_
  cases c.pcapStream with
  | none => exact Prog.rel_pure ()
  | some stream =>
    refine Prog.rel_bind (letters_mark rfl) fun _ => ?_
    refine Prog.rel_bind (letters_query (.pcapWrite data stream)) fun stream => ?_
    refine Prog.rel_bind (letters_update _) fun _ => ?_
    exact Prog.rel_when fun _ => letters_stopPacketCapture d _

theorem letters_putCache (key : CacheKey) (data : Bytes) :
    Prog.Rel (Letters d) (putCache d key data) :=
  letters_inform (.cachePut key data)

theorem letters_handleWrite (streamId : StreamId) (data : Bytes) :
    Prog.Rel (Letters d) (handleWrite d streamId data) := by
  unfold handleWrite
  split
  · exact letters_writePcap d data
  split
  · exact letters_putCache d .privateKey data
  split
  · exact letters_putCache d .certificate data
  split
  · exact letters_putCache d .apiSession data
  · exact letters_writeStream d streamId (.write data)

theorem letters_openStream (streamId : StreamId) (target : OpenStream) :
    Prog.Rel (Letters d) (openStream d streamId target) := by
  unfold openStream
  by_cases hudp : target.kind = .udp
  · simp only [if_pos hudp]
    exact letters_streamsDo (.openUdp streamId target.addr)
  · simp only [if_neg hudp]
    exact letters_streamsDo (.openTcp streamId target.addr)

theorem letters_handleOpen (streamId : StreamId) (target : OpenStream) :
    Prog.Rel (Letters d) (handleOpen d streamId target) := by
  refine Prog.rel_bind (letters_openStream d streamId target) fun result => ?_
  refine Prog.rel_bind (letters_mark rfl) fun _ => ?_
  cases result with
  | error e => exact letters_handleStreamError d streamId e
  | ok =>
    exact Prog.rel_bind (letters_update _) fun _ => Prog.rel_when fun _ => letters_setPoll d _ _

theorem letters_shutdownWrite (streamId : StreamId) :
    Prog.Rel (Letters d) (shutdownWrite d streamId) := by
  refine Prog.rel_bind letters_conn fun c => ?_
  cases d.streams.getStream c.streams streamId with
  | none => exact Prog.rel_pure ()
  | some stream =>
    exact Prog.rel_bind (letters_streamDo streamId stream .shutdownWrite) fun _ =>
      letters_mark rfl

theorem letters_closeStream (streamId : StreamId) :
    Prog.Rel (Letters d) (closeStream d streamId) :=
  Prog.rel_bind (letters_streamsDo (.close streamId)) fun _ => letters_mark rfl

theorem letters_handleAction (action : Action) : Prog.Rel (Letters d) (handleAction d action) := by
  obtain ⟨streamId, kind⟩ := action
  cases kind with
  | openStream target firstWrite =>
    refine Prog.rel_bind (letters_handleOpen d streamId target) fun _ => ?_
    cases firstWrite with
    | none => exact Prog.rel_pure ()
    | some data => exact letters_handleWrite d streamId data
  | write data => exact letters_handleWrite d streamId data
  | close => exact letters_closeStream d streamId
  | shutdown => exact letters_shutdownWrite d streamId
  | setOption | read _ | error _ | done => exact Prog.rel_pure ()

theorem letters_pullAction : Prog.Rel (Letters d) (pullAction d) := by
  refine Prog.rel_bind (letters_query .needPull) fun b => ?_
  cases b with
  | false => exact Prog.rel_pure false
  | true =>
    refine Prog.rel_bind (letters_ask .pulled) fun a => ?_
    cases a with
    | none => exact Prog.rel_pure true
    | some action =>
      exact Prog.rel_bind (letters_handleAction d action) fun _ => Prog.rel_pure true

theorem letters_pullLocalAgent : Prog.Rel (Letters d) (pullLocalAgent d) := by
  refine Prog.rel_bind (letters_ask .pulledLocalAgent) fun m => ?_
  cases m with
  | none => exact Prog.rel_pure false
  | some message =>
    refine Prog.rel_bind letters_conn fun c => ?_
    cases c.localAgentHandler with
    | none => exact Prog.rel_pure true
    | some handler =>
      refine Prog.rel_bind (letters_update _) fun _ => ?_
      exact Prog.rel_bind (Prog.rel_forEach (letters_emitEvent d) _) fun _ => Prog.rel_pure true

theorem letters_pullFromClient (n : Nat) : Prog.Rel (Letters d) (pullFromClient d n) := by
  refine Prog.rel_bind (Prog.rel_loop (letters_pullAction d) n) fun _ => ?_
  exact Prog.rel_bind letters_conn fun _ => Prog.rel_when fun _ =>
    Prog.rel_loop (letters_pullLocalAgent d) n

/-! ### Messages -/

theorem letters_onConnectivityChange (event : ConnectivityEvent) (info : Option TunnelInfo) :
    Prog.Rel (Letters d) (onConnectivityChange d event info) := by
  refine Prog.rel_bind (letters_update _) fun _ => Prog.rel_bind letters_conn fun c => ?_
  split
  · exact letters_inform .notifyNetworkChange
  · exact Prog.rel_bind (letters_inform .notifyNetworkDown) fun _ => letters_setState d _

theorem letters_giveSettings (settings : LocalAgentSettings) :
    Prog.Rel (Letters d) (giveSettings d settings) :=
  letters_inform (.setSettings _)

theorem letters_updateLocalAgentSettings (settings : LocalAgentSettings) :
    Prog.Rel (Letters d) (updateLocalAgentSettings d settings) := by
  refine Prog.rel_bind letters_conn fun c => ?_
  cases c.localAgentSettings with
  | none => exact Prog.rel_pure ()
  | some current =>
    exact Prog.rel_when fun _ => Prog.rel_bind (letters_update _) fun _ =>
      letters_giveSettings d settings

theorem letters_addPeer (peer : PeerInfo) : Prog.Rel (Letters d) (addPeer d peer) :=
  letters_inform (.peerAdd peer.asPeer)

theorem letters_removeUnless (newPeers : SanitizedPeers) (oldPeer : PeerInfo) :
    Prog.Rel (Letters d) (removeUnless d newPeers oldPeer) :=
  Prog.rel_when fun _ => letters_inform (.peerRemove oldPeer.addr)

theorem letters_updatePeers (newPeers : SanitizedPeers) :
    Prog.Rel (Letters d) (updatePeers d newPeers) := by
  refine Prog.rel_bind letters_conn fun c => Prog.rel_when fun _ => ?_
  refine Prog.rel_bind (Prog.rel_forEach (letters_removeUnless d newPeers) _) fun _ => ?_
  refine Prog.rel_bind (Prog.rel_forEach (fun p => ?_) _) fun _ => letters_update _
  exact Prog.rel_when fun _ => letters_addPeer d p

theorem letters_updateTun (info : TunStreamInfo) : Prog.Rel (Letters d) (updateTun d info) := by
  refine Prog.rel_bind (letters_streamsDo (.updateTun info)) fun result => ?_
  refine Prog.rel_bind (letters_mark rfl) fun _ => ?_
  cases result with
  | error e => exact Prog.rel_pure ()
  | ok => exact letters_update _

theorem letters_handleUpdate (u : ConfigUpdate) : Prog.Rel (Letters d) (handleUpdate d u) := by
  refine Prog.rel_bind (letters_ifSome fun peers => letters_updatePeers d _) fun _ => ?_
  refine Prog.rel_bind (letters_ifSome (letters_updateLocalAgentSettings d)) fun _ => ?_
  exact letters_ifSome (letters_updateTun d)

theorem letters_requestStats : Prog.Rel (Letters d) (requestStats d) := by
  refine Prog.rel_bind (letters_query .getStats) fun stats => ?_
  cases stats with
  | none => exact Prog.rel_pure ()
  | some stats =>
    exact Prog.rel_bind (letters_query .realtimeClock) fun _ => letters_emitEvent d _

theorem letters_pushLocalAgent (action : LocalAgentAction) :
    Prog.Rel (Letters d) (pushLocalAgent d action) :=
  letters_inform (.pushLocalAgent action)

theorem letters_handleMessage (m : PvpnMessage) : Prog.Rel (Letters d) (handleMessage d m) := by
  cases m with
  | disconnect => exact letters_update _
  | connectivityChange event =>
    exact Prog.rel_bind (letters_ask .tunnelInfo) fun info =>
      letters_onConnectivityChange d event info
  | startPacketCapture file => exact letters_startPacketCapture d file
  | stopPacketCapture => exact letters_stopPacketCapture d _
  | requestStats => exact letters_requestStats d
  | update u => exact letters_handleUpdate d u
  | provideApiForkSelector info => exact letters_pushLocalAgent d _
  | requestLocalAgentStats => exact Prog.rel_forEach (fun _ => letters_pushLocalAgent d _) _

theorem letters_receiveMessage : Prog.Rel (Letters d) (receiveMessage d) := by
  refine Prog.rel_bind (letters_ask .recv) fun m => ?_
  cases m with
  | none => exact Prog.rel_pure false
  | some message => exact Prog.rel_bind (letters_handleMessage d message) fun _ => Prog.rel_pure _

theorem letters_handleMessages (n : Nat) : Prog.Rel (Letters d) (handleMessages d n) :=
  Prog.rel_bind (Prog.rel_loop (letters_receiveMessage d) n) fun _ =>
    Prog.rel_bind letters_conn fun _ => Prog.rel_pure _

/-! ### Polling and reading -/

theorem letters_pollDeadline : Prog.Rel (Letters d) (pollDeadline d) := by
  refine Prog.rel_bind (letters_query .wakeupDeadline) fun delay => ?_
  refine Prog.rel_bind letters_conn fun c => ?_
  split
  · exact Prog.rel_bind (letters_query .monotonicNow) fun _ => Prog.rel_pure _
  · exact Prog.rel_pure _

theorem letters_readInto (streamId : StreamId) (stream : X) :
    Prog.Rel (Letters d) (readInto d streamId stream) := by
  refine Prog.rel_bind letters_conn fun c => ?_
  refine Prog.rel_bind (letters_streamDo streamId stream (.read c.streamReadBuffer)) fun r => ?_
  refine Prog.rel_bind (letters_update _) fun _ => ?_
  exact Prog.rel_bind (letters_mark rfl) fun _ => Prog.rel_pure _

theorem letters_pushRead (streamId : StreamId) (startOffset bytesRead : Nat) :
    Prog.Rel (Letters d) (pushRead d streamId startOffset bytesRead) := by
  refine Prog.rel_bind letters_conn fun c => ?_
  cases slice? c.streamReadBuffer startOffset bytesRead with
  | none => exact Prog.rel_stall
  | some data => exact letters_push d _

theorem letters_handleReadResult (n : Nat) (streamId : StreamId) (res : StreamResult) :
    Prog.Rel (Letters d) (handleReadResult d n streamId res) := by
  cases res with
  | ok bytesRead startOffset wouldBlock pendingWrite =>
    refine Prog.rel_bind letters_conn fun c => ?_
    refine Prog.rel_bind (Prog.rel_when fun _ => ?_) fun _ => Prog.rel_pure _
    exact Prog.rel_bind (letters_pushRead d _ _ _) fun _ => letters_pullFromClient d n
  | err e =>
    exact Prog.rel_bind (letters_handleStreamError d streamId e) fun _ => Prog.rel_pure _
  | streamClosed => exact Prog.rel_bind (letters_push d _) fun _ => Prog.rel_pure _

theorem letters_readStream (n : Nat) (streamId : StreamId) :
    Prog.Rel (Letters d) (readStream d n streamId) := by
  refine Prog.rel_bind letters_conn fun c => ?_
  cases d.streams.getStream c.streams streamId with
  | none => exact Prog.rel_pure false
  | some stream =>
    refine Prog.rel_bind (letters_readInto d streamId stream) fun res => ?_
    exact Prog.rel_bind (letters_noteTunResult d streamId res) fun _ =>
      letters_handleReadResult d n streamId res

theorem letters_readRound (n : Nat) (streamIds : List StreamId) :
    Prog.Rel (Letters d) (readRound d n streamIds) := by
  induction streamIds with
  | nil => exact Prog.rel_pure _
  | cons streamId streamIds ih =>
    exact Prog.rel_bind (letters_readStream d n streamId) fun _ =>
      Prog.rel_bind ih fun _ => Prog.rel_pure _

theorem letters_readRounds (n fuel : Nat) (streamIds : List StreamId) :
    Prog.Rel (Letters d) (readRounds d n fuel streamIds) := by
  induction fuel generalizing streamIds with
  | zero =>
    cases streamIds with
    | nil => exact Prog.rel_pure ()
    | cons streamId streamIds => exact Prog.rel_stall
  | succ fuel ih =>
    cases streamIds with
    | nil => exact Prog.rel_pure ()
    | cons streamId streamIds =>
      exact Prog.rel_bind (letters_readRound d n (streamId :: streamIds)) fun next => ih next

theorem letters_handlePollResults (n : Nat) (results : List PollResult) :
    Prog.Rel (Letters d) (handlePollResults d n results) := by
  refine Prog.rel_bind (Prog.rel_forEach (fun res => Prog.rel_when fun _ => ?_) results)
    fun _ => letters_readRounds d n n _
  exact letters_writeStream d res.streamId .writeFromBuffer

theorem letters_onResumed : Prog.Rel (Letters d) (onResumed d) := by
  refine Prog.rel_bind (letters_query .setCurrentTime) fun now => ?_
  refine Prog.rel_bind letters_conn fun c => Prog.rel_bind (letters_update _) fun _ => ?_
  exact Prog.rel_when fun _ => letters_inform .notifyNetworkChange

/-! ### The loop -/

theorem letters_onConnectionLoopEnd : Prog.Rel (Letters d) (onConnectionLoopEnd d) := by
  refine Prog.rel_bind (letters_mark rfl) fun _ => Prog.rel_bind letters_conn fun c => ?_
  refine Prog.rel_bind (Prog.rel_when fun _ => letters_stopPacketCapture d _) fun _ => ?_
  refine Prog.rel_bind letters_conn fun c => ?_
  split
  · exact Prog.rel_pure ()
  · exact letters_setState d _

theorem letters_announceNetwork : Prog.Rel (Letters d) (announceNetwork d) :=
  Prog.rel_bind letters_conn fun _ => Prog.rel_when fun _ =>
    Prog.rel_bind (letters_inform .notifyNetworkDown) fun _ => letters_setState d _

theorem letters_watchLocalAgent (settings : LocalAgentSettings) :
    Prog.Rel (Letters d) (watchLocalAgent d settings) :=
  Prog.rel_bind (Prog.rel_forEach (fun _ => letters_pushLocalAgent d _) _) fun _ =>
    letters_giveSettings d settings

theorem letters_new (cfg : InitialConfig) : Prog.Rel (Letters d) (new d cfg) := by
  refine Prog.rel_bind letters_conn fun c => ?_
  refine Prog.rel_bind (Prog.rel_forEach (letters_addPeer d) _) fun _ => ?_
  refine Prog.rel_bind (letters_announceNetwork d) fun _ => ?_
  refine Prog.rel_bind (letters_ifSome (letters_startPacketCapture d)) fun _ => ?_
  exact letters_ifSome (letters_watchLocalAgent d)

/-! ## Whole runs -/

/-- `waitForStreams` sleeps once, until the deadline it has computed. -/
theorem waitForStreams_apply (h : Hist (Sys E S F) Obs) :
    waitForStreams d h = (pollDeadline d >>= fun deadline => do
      let results ← fun h => (some (d.streams.poll deadline h.now.conn.streams h.now.env).1,
        sleep d deadline h)
      Prog.emit (.polled results)
      pure results) h := rfl

theorem steps_waitForStreams : Prog.Rel (Steps d) (waitForStreams d) := by
  intro h
  rw [waitForStreams_apply]
  refine Prog.rel_bind (steps_of_letters (letters_pollDeadline d)) (fun deadline => ?_) h
  refine Prog.rel_bind (fun _ => .single (.inr ⟨deadline, rfl⟩)) fun results => ?_
  exact Prog.rel_bind (steps_of_letters (letters_mark rfl)) fun _ => Prog.rel_pure _

theorem steps_pollFromStreams (n : Nat) : Prog.Rel (Steps d) (pollFromStreams d n) := by
  refine Prog.rel_bind (steps_waitForStreams d) fun results => ?_
  refine Prog.rel_bind (steps_of_letters (letters_onResumed d)) fun _ => ?_
  cases results with
  | error e => exact Prog.rel_pure ()
  | ok results => exact steps_of_letters (letters_handlePollResults d n results)

theorem steps_iteration (n : Nat) : Prog.Rel (Steps d) (iteration d n) := by
  refine Prog.rel_bind (steps_of_letters (letters_handleMessages d n)) fun goOn => ?_
  cases goOn with
  | false => exact Prog.rel_pure false
  | true =>
    refine Prog.rel_bind (steps_of_letters (letters_query .setCurrentTime)) fun _ => ?_
    refine Prog.rel_bind (steps_of_letters (letters_pullFromClient d n)) fun _ => ?_
    refine Prog.rel_bind (steps_of_letters (letters_updateState d)) fun _ => ?_
    exact Prog.rel_bind (steps_pollFromStreams d n) fun _ => Prog.rel_pure true

theorem steps_run (n : Nat) : Prog.Rel (Steps d) (run d n) :=
  Prog.rel_bind (Prog.rel_loop (steps_iteration d n) n) fun _ =>
    steps_of_letters (letters_onConnectionLoopEnd d)

/-- **A whole run is a sequence of letters and sleeps.** -/
theorem exec_steps (cfg : InitialConfig) (streams : S) (env : E) (n : Nat) :
    Steps d (Hist.init ⟨env, initial d cfg streams⟩) (exec d cfg streams env n).2 :=
  Prog.rel_bind (steps_of_letters (letters_new d cfg)) (fun _ => steps_run d n) _

section NoSleep

variable {d} {deadline : Option Duration}

theorem Asks.ne_polling {f : E → Obs × E} (hf : Asks d f) (e : E) :
    (f e).1 ≠ .polling deadline := by
  cases hf <;> exact nofun

theorem Informs.ne_polling {o : Obs} {f : E → E} (hf : Informs d o f) : o ≠ .polling deadline := by
  cases hf <;> exact nofun

theorem mem_of_polling_snoc {l : List (Obs × Sys E S F)} {o : Obs} (ho : o ≠ .polling deadline)
    {s s' : Sys E S F} (hmem : (.polling deadline, s) ∈ l ++ [(o, s')]) :
    (.polling deadline, s) ∈ l := by
  obtain hmem | hmem := List.mem_append.mp hmem
  · exact hmem
  · exact absurd (congrArg Prod.fst (List.mem_singleton.mp hmem)).symm ho

/-- No letter sleeps. -/
theorem Letter.mem_of_polling {h h' : Hist (Sys E S F) Obs} (hl : Letter d h h') {s : Sys E S F}
    (hmem : (.polling deadline, s) ∈ h'.past) : (.polling deadline, s) ∈ h.past := by
  cases hl with
  | assign | query | streams | stream => exact hmem
  | mark ho => exact mem_of_polling_snoc (by rintro rfl; cases ho) hmem
  | ask hf => exact mem_of_polling_snoc (hf.ne_polling _) hmem
  | inform hf => exact mem_of_polling_snoc hf.ne_polling hmem

end NoSleep

section Invariants

variable {d} {I : Hist (Sys E S F) Obs → Prop}

/-- What every letter keeps, every word keeps. -/
theorem inv_of_letters {x : Conn E S F α} (hx : Prog.Rel (Letters d) x)
    (hI : ∀ h h', Letter d h h' → I h → I h') : Prog.Inv I x := by
  refine hx.inv fun h h' hl hh => ?_
  induction hl with
  | refl => exact hh
  | tail _ hletter ih => exact hI _ _ hletter ih

/-- **What letters and sleeps keep holds after every run.** -/
theorem exec_inv (hI : ∀ h h', Letter d h h' → I h → I h')
    (hsleep : ∀ h deadline, I h → I (sleep d deadline h)) {cfg : InitialConfig}
    {streams : S} {env : E} (hinit : I (Hist.init ⟨env, initial d cfg streams⟩)) (n : Nat) :
    I (exec d cfg streams env n).2 := by
  have hsteps := exec_steps d cfg streams env n
  generalize (exec d cfg streams env n).2 = h at hsteps ⊢
  induction hsteps with
  | refl => exact hinit
  | tail _ hstep ih =>
    obtain hletter | ⟨deadline, rfl⟩ := hstep
    · exact hI _ _ hletter ih
    · exact hsleep _ deadline ih

end Invariants

end PvpnConnection

end Protun
