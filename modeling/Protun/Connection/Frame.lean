import Protun.Agent.Calls
import Protun.Connection.Run

/-!
# What input and output leave alone

Most of the connection thread moves bytes: it opens, writes, reads, closes and polls streams,
captures packets, and tells the client about it. `Frame Q` says that the part of the connection
that decides what the user and the client are told (`SameCore`) is as before and that every
observation made meanwhile satisfies `Q`. It is a preorder, so one walk over the source gives it
for all of these functions at once. Those that do not touch the streams either are walked first
(`Aside`).

`Frame` is `Step` at one relation on the connection's fields. The messages of the API, the
constructor and the end of the loop are walked with the same rules for every relation that ignores
what they change (`Indifferent`); `Api` is the one that holds the local-agent handler fixed.
-/

namespace Protun

open Trace

namespace PvpnConnection

open Conn

variable {E S X F α : Type}

/-- From `h` to `h'` the connection changed by `K`, everything observed satisfies `Q`, and each time
something was observed the connection had changed by `K` only. -/
structure Step (K : PvpnConnection S F → PvpnConnection S F → Prop) (Q : Obs → Bool)
    (h h' : Hist (Sys E S F) Obs) : Prop where
  core : K h.now.conn h'.now.conn
  trace : Extends (fun o s => Q o = true ∧ K h.now.conn s.conn) h h'

section Step

variable {K : PvpnConnection S F → PvpnConnection S F → Prop} {Q : Obs → Bool}

theorem Step.observed {h h' : Hist (Sys E S F) Obs} (hs : Step K Q h h') :
    Extends (fun o _ => Q o = true) h h' :=
  hs.trace.imp fun _ _ => And.left

instance isPreorder_step [IsPreorder (PvpnConnection S F) K] :
    IsPreorder (Hist (Sys E S F) Obs) (Step K Q) where
  refl h := ⟨refl_of K _, refl_of (Extends _) h⟩
  trans _ _ _ h₁ h₂ := ⟨trans_of K h₁.core h₂.core, trans_of (Extends _) h₁.trace
    (h₂.trace.imp fun _ _ hx => ⟨hx.1, trans_of K h₁.core hx.2⟩)⟩

theorem Step.mono {K' : PvpnConnection S F → PvpnConnection S F → Prop} {Q' : Obs → Bool}
    {h h' : Hist (Sys E S F) Obs} (hs : Step K Q h h') (hK : ∀ c c', K c c' → K' c c')
    (hQ : ∀ o, Q o = true → Q' o = true) : Step K' Q' h h' :=
  ⟨hK _ _ hs.core, hs.trace.imp fun o _ hx => ⟨hQ o hx.1, hK _ _ hx.2⟩⟩

theorem step_set {h : Hist (Sys E S F) Obs} {s : Sys E S F} (hK : K h.now.conn s.conn) :
    Step K Q h (h.set s) :=
  ⟨hK, extends_set h s⟩

theorem step_update {f : PvpnConnection S F → PvpnConnection S F} (hf : ∀ c, K c (f c)) :
    Prog.Rel (Step K Q) (update f : Conn E S F Unit) :=
  fun _ => step_set (hf _)

theorem step_streamsDo (hK : ∀ c s, K c { c with streams := s }) (f : S → E → α × S × E) :
    Prog.Rel (Step K Q) (streamsDo f : Conn E S F α) :=
  fun _ => step_set (hK _ _)

variable [IsPreorder (PvpnConnection S F) K]

theorem step_conn : Prog.Rel (Step K Q) (conn : Conn E S F _) :=
  fun h => refl_of (Step K Q) h

theorem step_query (f : E → α × E) : Prog.Rel (Step K Q) (query f : Conn E S F α) :=
  fun _ => step_set (refl_of K _)

theorem step_emit {o : Obs} (ho : Q o = true) :
    Prog.Rel (Step K Q) (Prog.emit o : Conn E S F Unit) :=
  fun h => ⟨refl_of K _, extends_emit h ⟨ho, refl_of K _⟩⟩

theorem step_ask {o : α → Obs} (ho : ∀ a, Q (o a) = true) (f : E → α × E) :
    Prog.Rel (Step K Q) (ask o f : Conn E S F α) :=
  Prog.rel_bind (step_query f) fun a => Prog.rel_bind (step_emit (ho a)) fun _ =>
    Prog.rel_pure a

theorem step_inform {o : Obs} (ho : Q o = true) (f : E → E) :
    Prog.Rel (Step K Q) (inform o f : Conn E S F Unit) :=
  Prog.rel_bind (step_emit ho) fun _ _ => step_set (refl_of K _)

theorem step_ifSome {x : Option α} {f : α → Conn E S F Unit}
    (hf : ∀ a, Prog.Rel (Step K Q) (f a)) : Prog.Rel (Step K Q) (ifSome x f) := by
  cases x with
  | none => exact Prog.rel_pure ()
  | some a => exact hf a

end Step

/-- What input and output leave alone. -/
structure Core where
  connectionState : ConnectionState
  peers : SanitizedPeers
  localAgentSettings : Option LocalAgentSettings
  localAgentHandler : Option LocalAgentHandler
  networkAvailable : Bool
  shouldStop : Bool

/-- The core of a connection. -/
def core (c : PvpnConnection S F) : Core where
  connectionState := c.connectionState
  peers := c.peers
  localAgentSettings := c.localAgentSettings
  localAgentHandler := c.localAgentHandler
  networkAvailable := c.networkRecoveryHandler.networkAvailable
  shouldStop := c.shouldStop

/-- The core is as before. -/
def SameCore (c c' : PvpnConnection S F) : Prop := c'.core = c.core

instance isPreorder_sameCore : IsPreorder (PvpnConnection S F) SameCore where
  refl _ := rfl
  trans _ _ _ h₁ h₂ := Eq.trans h₂ h₁

section SameCore

variable {c c' : PvpnConnection S F}

theorem SameCore.connectionState (h : SameCore c c') : c'.connectionState = c.connectionState :=
  congrArg Core.connectionState h

theorem SameCore.peers (h : SameCore c c') : c'.peers = c.peers := congrArg Core.peers h

theorem SameCore.localAgentSettings (h : SameCore c c') :
    c'.localAgentSettings = c.localAgentSettings :=
  congrArg Core.localAgentSettings h

theorem SameCore.localAgentHandler (h : SameCore c c') :
    c'.localAgentHandler = c.localAgentHandler :=
  congrArg Core.localAgentHandler h

theorem SameCore.networkAvailable (h : SameCore c c') :
    c'.networkRecoveryHandler.networkAvailable = c.networkRecoveryHandler.networkAvailable :=
  congrArg Core.networkAvailable h

theorem SameCore.shouldStop (h : SameCore c c') : c'.shouldStop = c.shouldStop :=
  congrArg Core.shouldStop h

theorem sameCore_network {r : NetworkRecoveryHandler}
    (hr : r.networkAvailable = c.networkRecoveryHandler.networkAvailable) :
    SameCore c { c with networkRecoveryHandler := r } := by
  unfold SameCore core
  rw [hr]

end SameCore

/-- The core is as before and everything observed meanwhile satisfies `Q`. -/
abbrev Frame (Q : Obs → Bool) (h h' : Hist (Sys E S F) Obs) : Prop := Step SameCore Q h h'

/-- The core and the streams are as before. -/
structure Untouched (c c' : PvpnConnection S F) : Prop where
  core : SameCore c c'
  streams : c'.streams = c.streams

instance isPreorder_untouched : IsPreorder (PvpnConnection S F) Untouched where
  refl _ := ⟨rfl, rfl⟩
  trans _ _ _ h₁ h₂ := ⟨trans_of SameCore h₁.core h₂.core, h₂.streams.trans h₁.streams⟩

end PvpnConnection

/-- Input, output and what goes with it. -/
def Obs.isIo : Obs → Bool
  | .recv _ | .tunnelInfo _ | .stateChanged _ | .peerAdd _ | .peerRemove _ | .setSettings _
  | .pulledLocalAgent _ | .updated _ | .loopEnd | .polling _ | .polled _ => false
  | .event e => !e.isLocalAgentStats
  | _ => true

/-- Input, output and the poll. -/
def Obs.isQuiet : Obs → Bool
  | .polling _ | .polled _ => true
  | o => o.isIo

theorem Obs.isQuiet_of_isIo (o : Obs) (h : o.isIo = true) : o.isQuiet = true := by
  cases o <;> first | rfl | exact h

/-- Output that has nothing to do with the streams. -/
def Obs.isAside : Obs → Bool
  | .opened .. | .closed _ | .shutdown _ | .tunUpdated .. | .read .. | .wrote .. | .handled ..
  | .pulled _ | .push ⟨_, .done⟩ => false
  | o => o.isIo

theorem Obs.isIo_of_isAside (o : Obs) (h : o.isAside = true) : o.isIo = true := by
  cases o <;> first | rfl | exact h

/-- What packet capture makes visible. -/
def Obs.isCapture : Obs → Bool
  | .setPacketCaptureEnabled _ | .pcapWrite .. => true
  | .event (.packetCaptureStarted _) | .event (.packetCaptureStopped _) => true
  | _ => false

theorem Obs.isAside_of_isCapture (o : Obs) (h : o.isCapture = true) : o.isAside = true := by
  cases o with
  | setPacketCaptureEnabled enabled | pcapWrite file data => rfl
  | event e => cases e <;> first | rfl | cases h
  | _ => cases h

namespace PvpnConnection

open Conn

variable {E S X F α : Type}

variable (d : PvpnDependencies E S X F)

/-! ## Packet capture and reports to the client -/

/-- The core and the streams are left alone. -/
abbrev Aside (h h' : Hist (Sys E S F) Obs) : Prop := Step Untouched Obs.isAside h h'

theorem frame_of_aside {x : Conn E S F α} (hx : Prog.Rel Aside x) :
    Prog.Rel (Frame Obs.isIo) x :=
  fun h => (hx h).mono (fun _ _ => Untouched.core) Obs.isIo_of_isAside

section Capture

variable {K : PvpnConnection S F → PvpnConnection S F → Prop} {Q : Obs → Bool}
  [IsPreorder (PvpnConnection S F) K] (hK : ∀ c p, K c { c with pcapStream := p })
  (hQ : ∀ o, Obs.isCapture o = true → Q o = true)
include hK hQ

theorem step_startPacketCapture (fileInfo : PcapFileInfo) :
    Prog.Rel (Step K Q) (startPacketCapture d fileInfo) := by
  refine Prog.rel_bind (step_query _) fun r => ?_
  cases r with
  | error e => exact Prog.rel_pure ()
  | ok stream =>
    refine Prog.rel_bind step_conn fun c => ?_
    refine Prog.rel_bind (step_update fun c => hK c _) fun _ => ?_
    refine Prog.rel_bind (step_query _) fun _ => ?_
    exact Prog.rel_bind (step_inform (hQ _ rfl) _) fun _ => step_inform (hQ _ rfl) _

theorem step_stopPacketCapture (reason : PcapFileInfo → CaptureStopReason) :
    Prog.Rel (Step K Q) (stopPacketCapture d reason) := by
  refine Prog.rel_bind (step_inform (hQ _ rfl) _) fun _ => Prog.rel_bind step_conn fun c => ?_
  cases c.pcapStream with
  | none => exact step_inform (hQ _ rfl) _
  | some stream =>
    refine Prog.rel_bind (step_update fun c => hK c _) fun _ => ?_
    exact Prog.rel_bind (step_query _) fun _ => step_inform (hQ _ rfl) _

theorem step_writePcap (data : Bytes) : Prog.Rel (Step K Q) (writePcap d data) := by
  refine Prog.rel_bind step_conn fun c => ?_
  cases c.pcapStream with
  | none => exact Prog.rel_pure ()
  | some stream =>
    refine Prog.rel_bind (step_emit (hQ _ rfl)) fun _ => ?_
    refine Prog.rel_bind (step_query _) fun stream => ?_
    refine Prog.rel_bind (step_update fun c => hK c _) fun _ => ?_
    exact Prog.rel_when fun _ => step_stopPacketCapture d hK hQ _

end Capture

theorem aside_startPacketCapture (fileInfo : PcapFileInfo) :
    Prog.Rel Aside (startPacketCapture d fileInfo) :=
  step_startPacketCapture d (fun _ _ => ⟨rfl, rfl⟩) Obs.isAside_of_isCapture fileInfo

theorem aside_stopPacketCapture (reason : PcapFileInfo → CaptureStopReason) :
    Prog.Rel Aside (stopPacketCapture d reason) :=
  step_stopPacketCapture d (fun _ _ => ⟨rfl, rfl⟩) Obs.isAside_of_isCapture reason

theorem aside_writePcap (data : Bytes) : Prog.Rel Aside (writePcap d data) :=
  step_writePcap d (fun _ _ => ⟨rfl, rfl⟩) Obs.isAside_of_isCapture data

theorem step_handleStreamError {K : PvpnConnection S F → PvpnConnection S F → Prop} {Q : Obs → Bool}
    [IsPreorder (PvpnConnection S F) K]
    (hK : ∀ c r, r.networkAvailable = c.networkRecoveryHandler.networkAvailable →
      K c { c with networkRecoveryHandler := r })
    {streamId : StreamId} (hQ : ∀ kind, Q (.pushError streamId kind) = true) (e : IoError) :
    Prog.Rel (Step K Q) (handleStreamError d streamId e) := by
  refine Prog.rel_when fun _ => Prog.rel_bind (step_query _) fun now => ?_
  refine Prog.rel_bind (step_update fun c => hK c _ ?_) fun _ => step_inform (hQ _) _
  exact NetworkRecoveryHandler.onStreamError_networkAvailable _ _ _

theorem aside_handleStreamError (streamId : StreamId) (e : IoError) :
    Prog.Rel Aside (handleStreamError d streamId e) :=
  step_handleStreamError d (fun _ _ hr => ⟨sameCore_network hr, rfl⟩) (fun _ => rfl) e

theorem step_noteTunResult {K : PvpnConnection S F → PvpnConnection S F → Prop} {Q : Obs → Bool}
    [IsPreorder (PvpnConnection S F) K] (hK : ∀ c err, K c { c with currentTunError := err })
    (streamId : StreamId) (res : StreamResult) :
    Prog.Rel (Step K Q) (noteTunResult d streamId res) :=
  Prog.rel_when fun _ => step_update fun c => hK c _

theorem step_pushRead {K : PvpnConnection S F → PvpnConnection S F → Prop} {Q : Obs → Bool}
    [IsPreorder (PvpnConnection S F) K] {streamId : StreamId}
    (hQ : ∀ data, Q (.push ⟨streamId, .read data⟩) = true) (startOffset bytesRead : Nat) :
    Prog.Rel (Step K Q) (pushRead d streamId startOffset bytesRead) := by
  refine Prog.rel_bind step_conn fun c => ?_
  cases slice? c.streamReadBuffer startOffset bytesRead with
  | none => exact Prog.rel_stall
  | some data => exact step_inform (hQ data) _

theorem aside_pushRead (streamId : StreamId) (startOffset bytesRead : Nat) :
    Prog.Rel Aside (pushRead d streamId startOffset bytesRead) :=
  step_pushRead d (fun _ => rfl) startOffset bytesRead

theorem step_onResumed {K : PvpnConnection S F → PvpnConnection S F → Prop} {Q : Obs → Bool}
    [IsPreorder (PvpnConnection S F) K]
    (hK : ∀ c r, r.networkAvailable = c.networkRecoveryHandler.networkAvailable →
      K c { c with networkRecoveryHandler := r })
    (hQ : Q .notifyNetworkChange = true) : Prog.Rel (Step K Q) (onResumed d) := by
  intro h
  have hr : ∀ now, K h.now.conn { h.now.conn with
      networkRecoveryHandler := (h.now.conn.networkRecoveryHandler.onResumed now).2 } :=
    fun now => hK _ _ (NetworkRecoveryHandler.onResumed_networkAvailable _ _)
  refine trans_of (Step K Q) (⟨hr (d.client.setCurrentTime h.now.env).1, extends_set h _⟩ :
    Step K Q h (h.set ⟨(d.client.setCurrentTime h.now.env).2, _⟩)) ?_
  exact Prog.rel_when (fun _ => step_inform hQ _) _

theorem aside_onResumed : Prog.Rel Aside (onResumed d) :=
  step_onResumed d (fun _ _ hr => ⟨sameCore_network hr, rfl⟩) rfl

theorem step_pollDeadline {K : PvpnConnection S F → PvpnConnection S F → Prop} {Q : Obs → Bool}
    [IsPreorder (PvpnConnection S F) K] : Prog.Rel (Step K Q) (pollDeadline d) := by
  refine Prog.rel_bind (step_query _) fun pvpnDelay => Prog.rel_bind step_conn fun c => ?_
  split
  · exact Prog.rel_bind (step_query _) fun _ => Prog.rel_pure _
  · exact Prog.rel_pure _

/-! ## Streams -/

end PvpnConnection

/-- What the streams, the sockets' results and the cache make visible, the bytes that are read
apart. -/
def Obs.isStreamIo : Obs → Bool
  | .push ⟨_, .read _⟩ => false
  | .pulled _ | .push _ | .pushError .. | .cachePut .. | .opened .. | .closed _ | .shutdown _
  | .wrote .. | .handled .. => true
  | _ => false

theorem Obs.isIo_of_isStreamIo (o : Obs) (h : o.isStreamIo = true) : o.isIo = true := by
  cases o <;> first | rfl | cases h

/-- The part of it that the calls on the stream `id` make visible. -/
def Obs.isStreamIoOf (id : StreamId) : Obs → Bool
  | .push ⟨_, .read _⟩ => false
  | .push ⟨streamId, _⟩ | .pushError streamId _ | .opened streamId .. | .closed streamId
  | .shutdown streamId | .wrote streamId _ | .handled streamId _ => streamId = id
  | .cachePut .. => true
  | _ => false

theorem Obs.isStreamIo_of_isStreamIoOf {id : StreamId} (o : Obs) (h : o.isStreamIoOf id = true) :
    o.isStreamIo = true := by
  cases o with
  | push action =>
    obtain ⟨streamId, kind⟩ := action
    cases kind <;> first | rfl | cases h
  | _ => first | rfl | cases h

theorem Obs.forall_isStreamIoOf {Q : Obs → Bool} (hQ : ∀ o, isStreamIo o = true → Q o = true)
    (id : StreamId) (o : Obs) (h : o.isStreamIoOf id = true) : Q o = true :=
  hQ o (o.isStreamIo_of_isStreamIoOf h)

namespace PvpnConnection

open Conn

variable {E S X F α : Type} (d : PvpnDependencies E S X F)

/-- What `handle_write` comes to. -/
theorem handleWrite_cases (streamId : StreamId) (data : Bytes) :
    (handleWrite d streamId data : Conn E S F Unit) = writePcap d data ∨
      (∃ key, (handleWrite d streamId data : Conn E S F Unit) = putCache d key data) ∨
      handleWrite d streamId data =
        writeStream d streamId fun stream => d.streams.write stream data := by
  unfold handleWrite
  split
  · exact .inl rfl
  split
  · exact .inr (.inl ⟨_, rfl⟩)
  split
  · exact .inr (.inl ⟨_, rfl⟩)
  split
  · exact .inr (.inl ⟨_, rfl⟩)
  · exact .inr (.inr rfl)

/-- What has to be checked of an invariant of the actions on the stream `streamId`. -/
structure KeptByActions (streamId : StreamId) (I : Hist (Sys E S F) Obs → Prop) : Prop where
  write : ∀ data, Prog.Inv I (writeStream d streamId fun stream => d.streams.write stream data)
  openStream : ∀ target, Prog.Inv I (handleOpen d streamId target)
  close : Prog.Inv I (closeStream d streamId)
  shutdown : Prog.Inv I (shutdownWrite d streamId)
  cache : ∀ key data, Prog.Inv I (putCache d key data)
  pcap : ∀ data, Prog.Inv I (writePcap d data)

namespace KeptByActions

variable {d} {streamId : StreamId} {I : Hist (Sys E S F) Obs → Prop}

theorem handleWrite (hk : KeptByActions d streamId I) (data : Bytes) :
    Prog.Inv I (handleWrite d streamId data) := by
  rcases handleWrite_cases d streamId data with heq | ⟨key, heq⟩ | heq
  · exact heq ▸ hk.pcap data
  · exact heq ▸ hk.cache key data
  · exact heq ▸ hk.write data

theorem handleAction (hk : KeptByActions d streamId I) (kind : ActionKind) :
    Prog.Inv I (handleAction d ⟨streamId, kind⟩) := by
  cases kind with
  | openStream target firstWrite =>
    refine Prog.inv_bind (hk.openStream target) fun _ => ?_
    cases firstWrite with
    | none => exact Prog.inv_pure ()
    | some data => exact hk.handleWrite data
  | write data => exact hk.handleWrite data
  | close => exact hk.close
  | shutdown => exact hk.shutdown
  | setOption | read _ | error _ | done => exact Prog.inv_pure ()

/-- The rule of a round of `pull_from_client`. -/
theorem pullAction (hk : ∀ streamId, KeptByActions d streamId I)
    (hneed : Prog.Inv I (query d.client.needPull))
    (hpulled : Prog.Inv I (ask .pulled d.client.pull)) : Prog.Inv I (pullAction d) := by
  refine Prog.inv_bind hneed fun b => ?_
  cases b with
  | false => exact Prog.inv_pure false
  | true =>
    refine Prog.inv_bind hpulled fun a => ?_
    cases a with
    | none => exact Prog.inv_pure true
    | some action =>
      exact Prog.inv_bind ((hk action.streamId).handleAction action.kind) fun _ =>
        Prog.inv_pure true

end KeptByActions

/-- `K` ignores what input and output may change, packet capture apart. -/
structure IgnoresIo (K : PvpnConnection S F → PvpnConnection S F → Prop) : Prop where
  streams : ∀ c s, K c { c with streams := s }
  currentTunError : ∀ c err, K c { c with currentTunError := err }
  readBuffer : ∀ c buf, K c { c with streamReadBuffer := buf }
  network : ∀ c r, r.networkAvailable = c.networkRecoveryHandler.networkAvailable →
    K c { c with networkRecoveryHandler := r }

theorem ignoresIo_sameCore : IgnoresIo (S := S) (F := F) SameCore where
  streams _ _ := rfl
  currentTunError _ _ := rfl
  readBuffer _ _ := rfl
  network _ _ hr := sameCore_network hr

/-- `K` ignores what the calls on the stream `streamId` may change, its closing and packet capture
apart. -/
structure IgnoresCalls (streamId : StreamId) (K : PvpnConnection S F → PvpnConnection S F → Prop) :
    Prop where
  setStream : ∀ c x, K c { c with streams := d.streams.setStream c.streams streamId x }
  setPoll : ∀ c wait e, K c { c with
    streams := (d.streams.setPollEnableWaitForWrite streamId wait c.streams e).1 }
  openTcp : ∀ c addr e, K c { c with
    streams := (d.streams.openNewTcpStream streamId addr c.streams e).2.1 }
  openUdp : ∀ c addr e, K c { c with
    streams := (d.streams.openNewUdpStream streamId addr c.streams e).2.1 }
  currentTunError : ∀ c err, K c { c with currentTunError := err }
  readBuffer : ∀ c buf, K c { c with streamReadBuffer := buf }
  network : ∀ c r, r.networkAvailable = c.networkRecoveryHandler.networkAvailable →
    K c { c with networkRecoveryHandler := r }

theorem IgnoresIo.calls {K : PvpnConnection S F → PvpnConnection S F → Prop} (hK : IgnoresIo K)
    (streamId : StreamId) : IgnoresCalls d streamId K where
  setStream _ _ := hK.streams _ _
  setPoll _ _ _ := hK.streams _ _
  openTcp _ _ _ := hK.streams _ _
  openUdp _ _ _ := hK.streams _ _
  currentTunError := hK.currentTunError
  readBuffer := hK.readBuffer
  network := hK.network

namespace IgnoresCalls

variable {d} {K : PvpnConnection S F → PvpnConnection S F → Prop} {Q : Obs → Bool}
  [IsPreorder (PvpnConnection S F) K] {streamId : StreamId} (hK : IgnoresCalls d streamId K)
  (hQ : ∀ o, Obs.isStreamIoOf streamId o = true → Q o = true)
include hK

theorem streamDo (stream : X) (f : X → E → Option (α × X × E)) :
    Prog.Rel (Step K Q) (streamDo d streamId stream f) := by
  intro h
  unfold PvpnConnection.streamDo
  cases f stream h.now.env with
  | none => exact refl_of (Step K Q) h
  | some r => exact step_set (hK.setStream _ _)

theorem readInto (hread : ∀ res, Q (.read streamId res) = true) (stream : X) :
    Prog.Rel (Step K Q) (readInto d streamId stream) := by
  refine Prog.rel_bind step_conn fun c => ?_
  refine Prog.rel_bind (hK.streamDo stream _) fun r => ?_
  refine Prog.rel_bind (step_update fun c => hK.readBuffer c _) fun _ => ?_
  exact Prog.rel_bind (step_emit (hread _)) fun _ => Prog.rel_pure r.1

theorem dispatchWriteResult (hdone : Q (.push ⟨streamId, .done⟩) = true)
    (hclose : Q (.push ⟨streamId, .close⟩) = true)
    (herror : ∀ kind, Q (.pushError streamId kind) = true) (res : StreamResult) :
    Prog.Rel (Step K Q) (dispatchWriteResult d streamId res) := by
  cases res with
  | ok bytesCount startOffset wouldBlock pendingWrite =>
    exact Prog.rel_bind (fun _ => step_set (hK.setPoll _ _ _)) fun _ =>
      Prog.rel_when fun _ => step_inform hdone _
  | err e => exact step_handleStreamError d hK.network herror e
  | streamClosed => exact step_inform hclose _

include hQ

theorem handleStreamError (e : IoError) :
    Prog.Rel (Step K Q) (handleStreamError d streamId e) :=
  step_handleStreamError d hK.network (fun _ => hQ _ (decide_eq_true rfl)) e

theorem writeStream (write : X → E → Option (StreamResult × X × E)) :
    Prog.Rel (Step K Q) (writeStream d streamId write) := by
  refine Prog.rel_bind step_conn fun c => ?_
  cases d.streams.getStream c.streams streamId with
  | none => exact Prog.rel_pure ()
  | some stream =>
    refine Prog.rel_bind (hK.streamDo stream write) fun res => ?_
    refine Prog.rel_bind (step_emit (hQ _ (decide_eq_true rfl))) fun _ => ?_
    refine Prog.rel_bind (step_noteTunResult d hK.currentTunError streamId res) fun _ => ?_
    have hdispatch : Prog.Rel (Step K Q) (PvpnConnection.dispatchWriteResult d streamId res) :=
      hK.dispatchWriteResult (hQ _ (decide_eq_true rfl)) (hQ _ (decide_eq_true rfl))
        (fun _ => hQ _ (decide_eq_true rfl)) res
    exact Prog.rel_bind hdispatch fun _ => step_emit (hQ _ (decide_eq_true rfl))

theorem handleOpen (target : OpenStream) :
    Prog.Rel (Step K Q) (handleOpen d streamId target) := by
  refine Prog.rel_bind (fun h => step_set ?_) fun result => ?_
  · by_cases hudp : target.kind = .udp
    · simpa only [if_pos hudp] using hK.openUdp _ _ _
    · simpa only [if_neg hudp] using hK.openTcp _ _ _
  refine Prog.rel_bind (step_emit (hQ _ (decide_eq_true rfl))) fun _ => ?_
  cases result with
  | error e => exact hK.handleStreamError hQ e
  | ok u =>
    refine Prog.rel_bind (step_update fun c => hK.network c _ rfl) fun _ => ?_
    exact Prog.rel_when fun _ _ => step_set (hK.setPoll _ _ _)

theorem shutdownWrite :
    Prog.Rel (Step K Q) (shutdownWrite d streamId) := by
  refine Prog.rel_bind step_conn fun c => ?_
  cases d.streams.getStream c.streams streamId with
  | none => exact Prog.rel_pure ()
  | some stream =>
    exact Prog.rel_bind (hK.streamDo stream _) fun _ => step_emit (hQ _ (decide_eq_true rfl))

/-- Packet capture and the closing of the stream may do what they like to the connection, as long as
they keep `I`. -/
theorem keptByActions {I : Hist (Sys E S F) Obs → Prop}
    (hio : ∀ h h', Step K Q h h' → I h → I h') (hpcap : ∀ data, Prog.Inv I (writePcap d data))
    (hclose : Prog.Inv I (closeStream d streamId)) : KeptByActions d streamId I where
  write _ := (hK.writeStream hQ _).inv hio
  openStream target := (hK.handleOpen hQ target).inv hio
  close := hclose
  shutdown := (hK.shutdownWrite hQ).inv hio
  cache _ _ := Prog.Rel.inv (R := Step K Q) (step_inform (hQ _ rfl) _) hio
  pcap := hpcap

omit hK hQ in
theorem inv_pullAction {I : Hist (Sys E S F) Obs → Prop}
    (hio : ∀ h h', Step K Q h h' → I h → I h') (hK : ∀ streamId, IgnoresCalls d streamId K)
    (hQ : ∀ o, Obs.isStreamIo o = true → Q o = true)
    (hpcap : ∀ data, Prog.Inv I (writePcap d data))
    (hclose : ∀ streamId, Prog.Inv I (closeStream d streamId)) : Prog.Inv I (pullAction d) :=
  KeptByActions.pullAction
    (fun streamId => (hK streamId).keptByActions (Obs.forall_isStreamIoOf hQ streamId) hio hpcap
      (hclose streamId))
    (Prog.Rel.inv (step_query (K := K) _) hio)
    (Prog.Rel.inv (step_ask (K := K) (fun _ => hQ _ rfl) _) hio)

end IgnoresCalls

namespace IgnoresIo

variable {K : PvpnConnection S F → PvpnConnection S F → Prop} {Q : Obs → Bool}
  [IsPreorder (PvpnConnection S F) K] (hK : IgnoresIo K) {streamId : StreamId}
  (hQ : ∀ o, Obs.isStreamIoOf streamId o = true → Q o = true)
include hK

theorem streamDo (stream : X) (f : X → E → Option (α × X × E)) :
    Prog.Rel (Step K Q) (streamDo d streamId stream f) :=
  (hK.calls d streamId).streamDo stream f

include hQ

theorem handleStreamError (e : IoError) :
    Prog.Rel (Step K Q) (handleStreamError d streamId e) :=
  (hK.calls d streamId).handleStreamError hQ e

theorem writeStream (write : X → E → Option (StreamResult × X × E)) :
    Prog.Rel (Step K Q) (writeStream d streamId write) :=
  (hK.calls d streamId).writeStream hQ write

theorem closeStream : Prog.Rel (Step K Q) (closeStream d streamId) :=
  Prog.rel_bind (step_streamsDo hK.streams _) fun _ => step_emit (hQ _ (decide_eq_true rfl))

section Inv

variable {I : Hist (Sys E S F) Obs → Prop} (hio : ∀ h h', Step K Q h h' → I h → I h')
include hio

theorem inv_handleAction (hpcap : ∀ data, Prog.Inv I (writePcap d data)) (kind : ActionKind) :
    Prog.Inv I (handleAction d ⟨streamId, kind⟩) :=
  ((hK.calls d streamId).keptByActions hQ hio hpcap
    ((hK.closeStream d hQ).inv hio)).handleAction kind

omit hQ in
theorem inv_pullAction (hQ : ∀ o, Obs.isStreamIo o = true → Q o = true)
    (hpcap : ∀ data, Prog.Inv I (writePcap d data)) : Prog.Inv I (pullAction d) :=
  IgnoresCalls.inv_pullAction hio (hK.calls d) hQ hpcap fun streamId =>
    (hK.closeStream d (Obs.forall_isStreamIoOf hQ streamId)).inv hio

end Inv

end IgnoresIo

theorem frame_writeStream (streamId : StreamId) (write : X → E → Option (StreamResult × X × E)) :
    Prog.Rel (Frame Obs.isIo) (writeStream d streamId write) :=
  ignoresIo_sameCore.writeStream d (Obs.forall_isStreamIoOf Obs.isIo_of_isStreamIo streamId) write

/-- A relation is an invariant of what it relates to the history one starts from. -/
theorem rel_of_inv {R : Hist (Sys E S F) Obs → Hist (Sys E S F) Obs → Prop}
    [IsPreorder (Hist (Sys E S F) Obs) R] {x : Conn E S F α} (hx : ∀ h₀, Prog.Inv (R h₀) x) :
    Prog.Rel R x :=
  fun h => hx h h (refl_of R h)

theorem frame_handleAction (action : Action) :
    Prog.Rel (Frame Obs.isIo) (handleAction d action) :=
  rel_of_inv fun _ => ignoresIo_sameCore.inv_handleAction d
    (Obs.forall_isStreamIoOf Obs.isIo_of_isStreamIo action.streamId)
    (fun _ _ hs hR => trans_of (Frame _) hR hs)
    (fun data => (frame_of_aside (aside_writePcap d data)).inv
      fun _ _ hs hR => trans_of (Frame _) hR hs) action.kind

theorem frame_pullAction : Prog.Rel (Frame Obs.isIo) (pullAction d) :=
  rel_of_inv fun _ => ignoresIo_sameCore.inv_pullAction d
    (fun _ _ hs hR => trans_of (Frame _) hR hs) Obs.isIo_of_isStreamIo
    fun data => (frame_of_aside (aside_writePcap d data)).inv
      fun _ _ hs hR => trans_of (Frame _) hR hs

/-! ## Reading and polling -/

theorem frame_readInto (streamId : StreamId) (stream : X) :
    Prog.Rel (Frame Obs.isIo) (readInto d streamId stream) :=
  (ignoresIo_sameCore.calls d streamId).readInto (fun _ => rfl) stream

theorem step_waitForStreams {K : PvpnConnection S F → PvpnConnection S F → Prop} {Q : Obs → Bool}
    [IsPreorder (PvpnConnection S F) K] (hK : ∀ c s, K c { c with streams := s })
    (hpolling : ∀ deadline, Q (.polling deadline) = true) (hpolled : ∀ r, Q (.polled r) = true) :
    Prog.Rel (Step K Q) (waitForStreams d) := by
  refine Prog.rel_bind (step_pollDeadline d) fun deadline => ?_
  refine Prog.rel_bind (step_emit (hpolling _)) fun _ => ?_
  refine Prog.rel_bind (step_streamsDo hK _) fun r => ?_
  exact Prog.rel_bind (step_emit (hpolled _)) fun _ => Prog.rel_pure r

theorem frame_waitForStreams : Prog.Rel (Frame Obs.isQuiet) (waitForStreams d) :=
  step_waitForStreams d (fun _ _ => rfl) (fun _ => rfl) fun _ => rfl

/-! ## Messages that leave the core and the streams alone -/

end PvpnConnection

/-- A message about packet capture. -/
def PvpnMessage.isCapture : PvpnMessage → Bool
  | .startPacketCapture _ | .stopPacketCapture => true
  | _ => false

/-- A message that leaves the core and the streams alone. -/
def PvpnMessage.isAside : PvpnMessage → Bool
  | .disconnect | .connectivityChange _ | .update _ => false
  | _ => true

namespace PvpnConnection

open Conn

variable {E S X F α : Type} (d : PvpnDependencies E S X F)

section

variable {K : PvpnConnection S F → PvpnConnection S F → Prop} {Q : Obs → Bool}
  [IsPreorder (PvpnConnection S F) K]
  (hstats : ∀ t stats, Q (.event (.connectionStats t stats)) = true)
include hstats

theorem step_requestStats : Prog.Rel (Step K Q) (requestStats d) := by
  refine Prog.rel_bind (step_query _) fun stats => ?_
  cases stats with
  | none => exact Prog.rel_pure ()
  | some stats => exact Prog.rel_bind (step_query _) fun now => step_inform (hstats _ _) _

theorem step_handleMessage_of_isAside (hK : ∀ c p, K c { c with pcapStream := p })
    (hcapture : ∀ o, Obs.isCapture o = true → Q o = true)
    (hagent : ∀ action, Q (.pushLocalAgent action) = true) {m : PvpnMessage}
    (hm : m.isAside = true) : Prog.Rel (Step K Q) (handleMessage d m) := by
  cases m with
  | startPacketCapture fileInfo => exact step_startPacketCapture d hK hcapture fileInfo
  | stopPacketCapture => exact step_stopPacketCapture d hK hcapture _
  | requestStats => exact step_requestStats d hstats
  | provideApiForkSelector info => exact step_inform (hagent _) _
  | requestLocalAgentStats => exact Prog.rel_forEach (fun _ => step_inform (hagent _) _) _
  | disconnect | connectivityChange event | update u => cases hm

end

theorem aside_handleMessage {m : PvpnMessage} (hm : m.isAside = true) :
    Prog.Rel Aside (handleMessage d m) :=
  step_handleMessage_of_isAside d (fun _ _ => rfl) (fun _ _ => ⟨rfl, rfl⟩)
    Obs.isAside_of_isCapture (fun _ => rfl) hm

end PvpnConnection

/-- What a message makes visible that is not about packet capture, `update_tun` apart. -/
def Obs.isControl : Obs → Bool
  | .tunnelInfo _ | .stateChanged _ | .peerAdd _ | .peerRemove _ | .setSettings _
  | .notifyNetworkChange | .notifyNetworkDown | .pushLocalAgent _
  | .event (.connectionStats ..) => true
  | _ => false

/-- What messages, the constructor and the end of the loop make visible, `update_tun` apart. -/
def Obs.isMessageIo (o : Obs) : Bool := o.isControl || o.isCapture

theorem Obs.isMessageIo_of_isControl (o : Obs) (h : o.isControl = true) : o.isMessageIo = true := by
  simp [Obs.isMessageIo, h]

theorem Obs.isMessageIo_of_isCapture (o : Obs) (h : o.isCapture = true) : o.isMessageIo = true := by
  simp [Obs.isMessageIo, h]

/-- What handling a message can do, `update_tun` apart: it is not `try_recv`, `update_state`, the
local agent, the streams or the end of the loop. -/
def Obs.isHandling : Obs → Bool
  | .tunnelInfo _ | .stateChanged _ | .peerAdd _ | .peerRemove _ | .setSettings _ => true
  | o => o.isAside

theorem Obs.isHandling_of_isMessageIo (o : Obs) (h : o.isMessageIo = true) :
    o.isHandling = true := by
  cases o with
  | event e => cases e <;> first | rfl | cases h
  | _ => first | rfl | cases h

namespace PvpnConnection

open Conn

variable {E S X F α : Type} (d : PvpnDependencies E S X F)

/-! ## Messages, the constructor and the end of the loop -/

section Api

variable {K : PvpnConnection S F → PvpnConnection S F → Prop} {Q : Obs → Bool}

theorem step_updateTun (hK : ∀ c s, K c { c with streams := s })
    (hKerr : ∀ c err, K c { c with currentTunError := err }) [IsPreorder (PvpnConnection S F) K]
    (hQ : ∀ info result, Q (.tunUpdated info result) = true) (tunInfo : TunStreamInfo) :
    Prog.Rel (Step K Q) (updateTun d tunInfo) := by
  refine Prog.rel_bind (step_streamsDo hK _) fun result => ?_
  refine Prog.rel_bind (step_emit (hQ _ _)) fun _ => ?_
  cases result with
  | error e => exact Prog.rel_pure ()
  | ok u => exact step_update fun c => hKerr c _

variable [IsPreorder (PvpnConnection S F) K]

theorem step_setState (hK : ∀ c s, K c { c with connectionState := s })
    (hQ : ∀ v, Q (.stateChanged v) = true) (state : ConnectionState) :
    Prog.Rel (Step K Q) (setState d state) := by
  refine Prog.rel_bind step_conn fun c => Prog.rel_when fun _ => ?_
  exact Prog.rel_bind (step_update fun c => hK c state) fun _ => step_inform (hQ _) _

theorem step_updatePeers (hK : ∀ c p, K c { c with peers := p })
    (hadd : ∀ p, Q (.peerAdd p) = true) (hremove : ∀ a, Q (.peerRemove a) = true)
    (newPeers : SanitizedPeers) : Prog.Rel (Step K Q) (updatePeers d newPeers) := by
  refine Prog.rel_bind step_conn fun c => Prog.rel_when fun _ => ?_
  refine Prog.rel_bind (Prog.rel_forEach (fun p => ?_) _) fun _ => ?_
  · exact Prog.rel_when fun _ => step_inform (hremove _) _
  refine Prog.rel_bind (Prog.rel_forEach (fun p => ?_) _) fun _ => ?_
  · exact Prog.rel_when fun _ => step_inform (hadd _) _
  · exact step_update fun c => hK c newPeers

theorem step_updateLocalAgentSettings (hK : ∀ c s, K c { c with localAgentSettings := s })
    (hQ : ∀ s, Q (.setSettings s) = true) (settings : LocalAgentSettings) :
    Prog.Rel (Step K Q) (updateLocalAgentSettings d settings) := by
  refine Prog.rel_bind step_conn fun c => ?_
  cases c.localAgentSettings with
  | none => exact Prog.rel_pure ()
  | some current =>
    refine Prog.rel_when fun _ => ?_
    exact Prog.rel_bind (step_update fun c => hK c _) fun _ => step_inform (hQ _) _

theorem step_handleUpdate (hpeers : ∀ c p, K c { c with peers := p })
    (hsettings : ∀ c s, K c { c with localAgentSettings := s })
    (hadd : ∀ p, Q (.peerAdd p) = true) (hremove : ∀ a, Q (.peerRemove a) = true)
    (hset : ∀ s, Q (.setSettings s) = true) (htun : ∀ tun, Prog.Rel (Step K Q) (updateTun d tun))
    (u : ConfigUpdate) : Prog.Rel (Step K Q) (handleUpdate d u) := by
  refine Prog.rel_bind (step_ifSome fun peers => ?_) fun _ => ?_
  · exact step_updatePeers d hpeers hadd hremove _
  refine Prog.rel_bind (step_ifSome fun settings => ?_) fun _ => ?_
  · exact step_updateLocalAgentSettings d hsettings hset settings
  · exact step_ifSome htun

theorem step_announceNetwork (hK : ∀ c s, K c { c with connectionState := s })
    (hdown : Q .notifyNetworkDown = true) (hstate : ∀ v, Q (.stateChanged v) = true) :
    Prog.Rel (Step K Q) (announceNetwork d) :=
  Prog.rel_bind step_conn fun _ => Prog.rel_when fun _ =>
    Prog.rel_bind (step_inform hdown _) fun _ => step_setState d hK hstate _

theorem step_onConnectionLoopEnd (hK : ∀ c s, K c { c with connectionState := s })
    (hpcap : ∀ c p, K c { c with pcapStream := p }) (hend : Q .loopEnd = true)
    (hcapture : ∀ o, Obs.isCapture o = true → Q o = true)
    (hstate : ∀ v, Q (.stateChanged v) = true) :
    Prog.Rel (Step K Q) (onConnectionLoopEnd d) := by
  refine Prog.rel_bind (step_emit hend) fun _ => Prog.rel_bind step_conn fun c => ?_
  refine Prog.rel_bind (Prog.rel_when fun _ => ?_) fun _ => ?_
  · exact step_stopPacketCapture d hpcap hcapture _
  refine Prog.rel_bind step_conn fun c => ?_
  split
  · exact Prog.rel_pure ()
  · exact step_setState d hK hstate _

end Api

/-- `K` ignores what a message may change that is neither `Disconnect` nor about packet capture,
apart from the streams. -/
structure IgnoresControl (K : PvpnConnection S F → PvpnConnection S F → Prop) : Prop where
  connectionState : ∀ c s, K c { c with connectionState := s }
  peers : ∀ c p, K c { c with peers := p }
  localAgentSettings : ∀ c s, K c { c with localAgentSettings := s }
  network : ∀ c r, K c { c with networkRecoveryHandler := r }

namespace IgnoresControl

variable {K : PvpnConnection S F → PvpnConnection S F → Prop} {Q : Obs → Bool}
  [IsPreorder (PvpnConnection S F) K] (hK : IgnoresControl K)
  (hQ : ∀ o, Obs.isControl o = true → Q o = true)
include hK hQ

theorem setState (state : ConnectionState) :
    Prog.Rel (Step K Q) (PvpnConnection.setState d state) :=
  step_setState d hK.connectionState (fun _ => hQ _ rfl) state

theorem handleUpdate (htun : ∀ tun, Prog.Rel (Step K Q) (updateTun d tun)) (u : ConfigUpdate) :
    Prog.Rel (Step K Q) (PvpnConnection.handleUpdate d u) :=
  step_handleUpdate d hK.peers hK.localAgentSettings (fun _ => hQ _ rfl) (fun _ => hQ _ rfl)
    (fun _ => hQ _ rfl) htun u

theorem onConnectivityChange (event : ConnectivityEvent) (info : Option TunnelInfo) :
    Prog.Rel (Step K Q) (PvpnConnection.onConnectivityChange d event info) := by
  refine Prog.rel_bind (step_update fun c => hK.network c _) fun _ => ?_
  refine Prog.rel_bind step_conn fun c => ?_
  split
  · exact step_inform (hQ _ rfl) _
  · exact Prog.rel_bind (step_inform (hQ _ rfl) _) fun _ => hK.setState d hQ _

theorem handleMessage {m : PvpnMessage} (hm : m ≠ .disconnect) (hcapture : m.isCapture = false)
    (hupdate : ∀ u, m = .update u → Prog.Rel (Step K Q) (PvpnConnection.handleUpdate d u)) :
    Prog.Rel (Step K Q) (PvpnConnection.handleMessage d m) := by
  cases m with
  | disconnect => exact absurd rfl hm
  | startPacketCapture fileInfo | stopPacketCapture => cases hcapture
  | connectivityChange event =>
    exact Prog.rel_bind (step_ask (fun _ => hQ _ rfl) _) fun info =>
      hK.onConnectivityChange d hQ event info
  | update u => exact hupdate u rfl
  | requestStats => exact step_requestStats d fun _ _ => hQ _ rfl
  | provideApiForkSelector info => exact step_inform (hQ _ rfl) _
  | requestLocalAgentStats => exact Prog.rel_forEach (fun _ => step_inform (hQ _ rfl) _) _

theorem announceNetwork : Prog.Rel (Step K Q) (PvpnConnection.announceNetwork d) :=
  step_announceNetwork d hK.connectionState (hQ _ rfl) fun _ => hQ _ rfl

omit hK in
theorem watchLocalAgent (settings : LocalAgentSettings) :
    Prog.Rel (Step K Q) (PvpnConnection.watchLocalAgent d settings : Conn E S F Unit) :=
  Prog.rel_bind (Prog.rel_forEach (fun _ => step_inform (hQ _ rfl) _) _) fun _ =>
    step_inform (hQ _ rfl) _

end IgnoresControl

/-- `K` ignores what a message other than `Disconnect` may change, apart from the streams. -/
structure Indifferent (K : PvpnConnection S F → PvpnConnection S F → Prop) : Prop where
  aside : ∀ c c', Untouched c c' → K c c'
  connectionState : ∀ c s, K c { c with connectionState := s }
  peers : ∀ c p, K c { c with peers := p }
  localAgentSettings : ∀ c s, K c { c with localAgentSettings := s }
  network : ∀ c r, K c { c with networkRecoveryHandler := r }

namespace Indifferent

variable {K : PvpnConnection S F → PvpnConnection S F → Prop} {Q : Obs → Bool}
  (hK : Indifferent K)
include hK

theorem of_aside (hQ : ∀ o, Obs.isAside o = true → Q o = true) {x : Conn E S F α}
    (hx : Prog.Rel Aside x) : Prog.Rel (Step K Q) x :=
  fun h => (hx h).mono hK.aside hQ

theorem pcapStream (c : PvpnConnection S F) (p : Option (PcapStream F)) :
    K c { c with pcapStream := p } :=
  hK.aside _ _ ⟨rfl, rfl⟩

theorem ignoresControl : IgnoresControl K :=
  ⟨hK.connectionState, hK.peers, hK.localAgentSettings, hK.network⟩

variable (hQ : ∀ o, Obs.isMessageIo o = true → Q o = true) [IsPreorder (PvpnConnection S F) K]

omit hK in
include hQ in
theorem control (o : Obs) (h : o.isControl = true) : Q o = true :=
  hQ o (o.isMessageIo_of_isControl h)

omit hK in
include hQ in
theorem capture (o : Obs) (h : o.isCapture = true) : Q o = true :=
  hQ o (o.isMessageIo_of_isCapture h)

include hQ

theorem setState (state : ConnectionState) :
    Prog.Rel (Step K Q) (PvpnConnection.setState d state) :=
  hK.ignoresControl.setState d (control hQ) state

theorem handleUpdate (htun : ∀ tun, Prog.Rel (Step K Q) (updateTun d tun)) (u : ConfigUpdate) :
    Prog.Rel (Step K Q) (PvpnConnection.handleUpdate d u) :=
  hK.ignoresControl.handleUpdate d (control hQ) htun u

theorem handleMessage {m : PvpnMessage} (hm : m ≠ .disconnect)
    (hupdate : ∀ u, m = .update u → Prog.Rel (Step K Q) (PvpnConnection.handleUpdate d u)) :
    Prog.Rel (Step K Q) (PvpnConnection.handleMessage d m) := by
  cases hcapture : m.isCapture with
  | false => exact hK.ignoresControl.handleMessage d (control hQ) hm hcapture hupdate
  | true =>
    cases m with
    | startPacketCapture fileInfo =>
      exact step_startPacketCapture d hK.pcapStream (capture hQ) fileInfo
    | stopPacketCapture => exact step_stopPacketCapture d hK.pcapStream (capture hQ) _
    | _ => cases hcapture

theorem onConnectionLoopEnd (hend : Q .loopEnd = true) :
    Prog.Rel (Step K Q) (PvpnConnection.onConnectionLoopEnd d) :=
  step_onConnectionLoopEnd d hK.connectionState hK.pcapStream hend (capture hQ) fun _ => hQ _ rfl

theorem new (cfg : InitialConfig) : Prog.Rel (Step K Q) (PvpnConnection.new d cfg) := by
  refine Prog.rel_bind step_conn fun c => ?_
  refine Prog.rel_bind (Prog.rel_forEach (fun p => step_inform (hQ _ rfl) _) _) fun _ => ?_
  refine Prog.rel_bind (hK.ignoresControl.announceNetwork d (control hQ)) fun _ => ?_
  refine Prog.rel_bind (step_ifSome fun file => ?_) fun _ => ?_
  · exact step_startPacketCapture d hK.pcapStream (capture hQ) file
  · exact step_ifSome (IgnoresControl.watchLocalAgent d (control hQ))

end Indifferent

end PvpnConnection

/-- What messages, the constructor and the end of the loop can do: everything but `update_state`,
the local agent and the poll. -/
def Obs.isApi : Obs → Bool
  | .recv _ | .loopEnd | .tunUpdated .. => true
  | o => o.isHandling

theorem Obs.isApi_of_isMessageIo (o : Obs) (h : o.isMessageIo = true) : o.isApi = true := by
  have hhandling := o.isHandling_of_isMessageIo h
  cases o <;> first | rfl | exact hhandling

namespace PvpnConnection

open Conn

variable {E S X F α : Type} (d : PvpnDependencies E S X F)

/-- The local-agent handler is left alone. -/
def SameHandler (c c' : PvpnConnection S F) : Prop := c'.localAgentHandler = c.localAgentHandler

instance isPreorder_sameHandler : IsPreorder (PvpnConnection S F) SameHandler where
  refl _ := rfl
  trans _ _ _ h₁ h₂ := Eq.trans h₂ h₁

/-- Work for the API: the local-agent handler is left alone. -/
abbrev Api (h h' : Hist (Sys E S F) Obs) : Prop := Step SameHandler Obs.isApi h h'

theorem indifferent_sameHandler : Indifferent (S := S) (F := F) SameHandler where
  aside _ _ h := h.core.localAgentHandler
  connectionState _ _ := rfl
  peers _ _ := rfl
  localAgentSettings _ _ := rfl
  network _ _ := rfl

theorem api_setState (state : ConnectionState) : Prog.Rel Api (setState d state) :=
  indifferent_sameHandler.setState d Obs.isApi_of_isMessageIo state

theorem api_receiveMessage : Prog.Rel Api (receiveMessage d) := by
  refine Prog.rel_bind (step_ask (fun _ => rfl) _) fun m => ?_
  cases m with
  | none => exact Prog.rel_pure _
  | some m =>
    refine Prog.rel_bind ?_ fun _ => Prog.rel_pure _
    by_cases hm : m = .disconnect
    · subst hm
      exact step_update fun _ => rfl
    · refine indifferent_sameHandler.handleMessage d Obs.isApi_of_isMessageIo hm fun u _ => ?_
      refine indifferent_sameHandler.handleUpdate d Obs.isApi_of_isMessageIo (fun tun => ?_) u
      exact step_updateTun d (fun _ _ => rfl) (fun _ _ => rfl) (fun _ _ => rfl) tun

theorem api_onConnectionLoopEnd : Prog.Rel Api (onConnectionLoopEnd d) :=
  indifferent_sameHandler.onConnectionLoopEnd d Obs.isApi_of_isMessageIo rfl

theorem api_new (cfg : InitialConfig) : Prog.Rel Api (new d cfg) :=
  indifferent_sameHandler.new d Obs.isApi_of_isMessageIo cfg

/-! ## Programs that only make calls -/

/-- `x` returns, makes exactly the calls `obs` and leaves the connection alone. -/
def Tells (x : Conn E S F Unit) (obs : List Obs) : Prop :=
  ∀ h, ∃ h', x h = (some (), h') ∧ h'.now.conn = h.now.conn ∧
    ∃ seg, h'.past = h.past ++ seg ∧ seg.map Prod.fst = obs ∧ ∀ x ∈ seg, x.2.conn = h.now.conn

theorem tells_inform (o : Obs) (f : E → E) : Tells (inform o f : Conn E S F Unit) [o] :=
  fun h => ⟨_, rfl, rfl, [(o, h.now)], rfl, rfl, by simp⟩

theorem tells_pure : Tells (pure () : Conn E S F Unit) [] :=
  fun h => ⟨h, rfl, rfl, [], by simp, rfl, by simp⟩

theorem tells_bind {x : Conn E S F Unit} {f : Unit → Conn E S F Unit} {obs obs' : List Obs}
    (hx : Tells x obs) (hf : Tells (f ()) obs') : Tells (x >>= f) (obs ++ obs') := by
  intro h
  obtain ⟨h₁, hx₁, hc₁, seg₁, hp₁, ho₁, hs₁⟩ := hx h
  obtain ⟨h₂, hx₂, hc₂, seg₂, hp₂, ho₂, hs₂⟩ := hf h₁
  refine ⟨h₂, (Prog.bind_of_some hx₁).trans hx₂, hc₂.trans hc₁, seg₁ ++ seg₂, ?_, ?_, ?_⟩
  · rw [hp₂, hp₁, List.append_assoc]
  · rw [List.map_append, ho₁, ho₂]
  · intro x hx
    rcases List.mem_append.mp hx with hx | hx
    · exact hs₁ x hx
    · exact (hs₂ x hx).trans hc₁

theorem tells_forEach {α : Type} {f : α → Conn E S F Unit} {obs : α → List Obs}
    (hf : ∀ a, Tells (f a) (obs a)) (xs : List α) :
    Tells (Prog.forEach xs f) (xs.flatMap obs) := by
  induction xs with
  | nil => exact tells_pure
  | cons a xs ih => exact tells_bind (f := fun _ => Prog.forEach xs f) (hf a) ih

theorem tells_when (c : Prop) [Decidable c] {x : Conn E S F Unit} {obs : List Obs}
    (hx : Tells x obs) : Tells (Prog.when c x) (if c then obs else []) := by
  by_cases hc : c
  · rw [Prog.when_pos hc, if_pos hc]
    exact hx
  · rw [Prog.when_neg hc, if_neg hc]
    exact tells_pure

end PvpnConnection

end Protun
