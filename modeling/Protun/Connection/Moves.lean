import Protun.Connection.State

/-!
# What the loop does with its recovery handler

The connection loop calls its `NetworkRecoveryHandler` in five places, and three of them tell the
client something: a connectivity message (`notify_network_change` or `notify_network_down`), a
poll that returns after the deadline of a delayed change (`notify_network_change`), and the
constructor if there is no network to begin with. `NetworkMove` lists all that a run does to the
handler and says of it:

* `error`: `handle_stream_error` reports the error of a socket to the handler and to the client.
* `opened`: `handle_open` reports a socket that could be opened.
* `connected`: `update_state` reports that it shows `Connected`, if it does.
* `changed`: `on_connectivity_change`, from the message on.
* `resumed`: `on_resumed`, after the poll.
* `announced`: the constructor says that there is no network.
* `placid`: everything else, which leaves the handler alone.

**`exec_moves`**: a whole run is a sequence of moves. `exec_of_moves`: so what all of them keep
holds after every run.
-/

namespace Protun

open Trace

/-! ## Moves -/

/-- What the client is told about the network. -/
def Obs.network : Obs → Option Bool
  | .notifyNetworkChange => some true
  | .notifyNetworkDown => some false
  | _ => none

/-- An observation that has nothing to do with the handler. -/
def Obs.isPlacid : Obs → Bool
  | .pushError .. | .opened _ _ (.ok ()) | .recv (some (.connectivityChange _)) | .updated _
  | .notifyNetworkChange | .notifyNetworkDown => false
  | _ => true

theorem Obs.isPlacid_of_isCapture (o : Obs) (h : o.isCapture = true) : o.isPlacid = true := by
  cases o <;> first | rfl | cases h

theorem Obs.network_of_isPlacid {o : Obs} (h : o.isPlacid = true) : o.network = none := by
  cases o <;> first | rfl | cases h

namespace PvpnConnection

open Conn

variable {E S X F α : Type} (d : PvpnDependencies E S X F)

/-- The handler is left alone. -/
def SameRecovery (c c' : PvpnConnection S F) : Prop :=
  c'.networkRecoveryHandler = c.networkRecoveryHandler

instance isPreorder_sameRecovery : IsPreorder (PvpnConnection S F) SameRecovery where
  refl _ := rfl
  trans _ _ _ h₁ h₂ := Eq.trans h₂ h₁

/-- Work that has nothing to do with the handler. -/
abbrev Placid (h h' : Hist (Sys E S F) Obs) : Prop := Step SameRecovery Obs.isPlacid h h'

/-- The connection `c` with the handler `r`. -/
def withRecovery (c : PvpnConnection S F) (r : NetworkRecoveryHandler) : PvpnConnection S F :=
  { c with networkRecoveryHandler := r }

/-- What the client is told when the network is there, or is not. -/
def notice (available : Bool) : Obs :=
  if available then .notifyNetworkChange else .notifyNetworkDown

/-- A connectivity message is read and reported to the handler, the environment being `e` after the
message and `e'` after the tunnel information. -/
def reportEvent (event : ConnectivityEvent) (info : Option TunnelInfo) (e e' : E)
    (h : Hist (Sys E S F) Obs) : Hist (Sys E S F) Obs :=
  let h := (h.set ⟨e, h.now.conn⟩).emit (.recv (some (.connectivityChange event)))
  let h := (h.set ⟨e', h.now.conn⟩).emit (.tunnelInfo info)
  h.set ⟨e', h.now.conn.withRecovery
    (h.now.conn.networkRecoveryHandler.onConnectivityChange event)⟩

/-- One move. -/
inductive NetworkMove (h : Hist (Sys E S F) Obs) : Hist (Sys E S F) Obs → Prop where
  | placid {h' : Hist (Sys E S F) Obs} (hs : Placid h h') : NetworkMove h h'
  | error (streamId : StreamId) (kind : ErrorKind) :
      NetworkMove h ((h.set ⟨(d.client.monotonicNow h.now.env).2,
        h.now.conn.withRecovery (h.now.conn.networkRecoveryHandler.onStreamError kind
          (d.client.monotonicNow h.now.env).1)⟩).emit (.pushError streamId kind))
  | opened (streamId : StreamId) (target : OpenStream) :
      NetworkMove h ((h.emit (.opened streamId target (.ok ()))).set ⟨h.now.env,
        h.now.conn.withRecovery h.now.conn.networkRecoveryHandler.onSuccessfulSocketOpen⟩)
  | connected (info : Option TunnelInfo) :
      NetworkMove h (closeUpdate info h)
  | changed (event : ConnectivityEvent) (info : Option TunnelInfo) (e e' : E) :
      NetworkMove h ((reportEvent event info e e' h).emit (notice event.available))
  | resumed :
      NetworkMove h (
        let now := (d.client.setCurrentTime h.now.env).1
        let r := h.now.conn.networkRecoveryHandler.onResumed now
        let h' := h.set ⟨(d.client.setCurrentTime h.now.env).2, h.now.conn.withRecovery r.2⟩
        if r.1 then h'.emit .notifyNetworkChange else h')
  | announced (hdown : h.now.conn.networkRecoveryHandler.networkAvailable = false) :
      NetworkMove h (h.emit .notifyNetworkDown)

/-- A sequence of moves. -/
abbrev NetworkMoves : Hist (Sys E S F) Obs → Hist (Sys E S F) Obs → Prop :=
  Relation.ReflTransGen (NetworkMove d)

instance isPreorder_networkMoves : IsPreorder (Hist (Sys E S F) Obs) (NetworkMoves d) where
  refl _ := .refl
  trans _ _ _ h₁ h₂ := h₁.trans h₂

/-! ## A run is a sequence of moves -/

variable {d}

theorem moves_of_placid {x : Conn E S F α} (hx : Prog.Rel Placid x) : Prog.Rel (NetworkMoves d) x :=
  fun h => .single (.placid (hx h))

theorem inv_of_moves {x : Conn E S F α} (hx : Prog.Rel (NetworkMoves d) x)
    (h₀ : Hist (Sys E S F) Obs) : Prog.Inv (NetworkMoves d h₀) x :=
  hx.inv fun _ _ hs hR => hR.trans hs

theorem placid_env (h : Hist (Sys E S F) Obs) (e : E) : Placid h (h.set ⟨e, h.now.conn⟩) :=
  step_set rfl

theorem placid_streamDo (streamId : StreamId) (stream : X) (f : X → E → Option (α × X × E)) :
    Prog.Rel Placid (streamDo d streamId stream f : Conn E S F α) := by
  intro h
  unfold streamDo
  split
  · exact step_set rfl
  · exact refl_of Placid h

variable (d)

theorem moves_handleStreamError (streamId : StreamId) (e : IoError) :
    Prog.Rel (NetworkMoves d) (handleStreamError d streamId e : Conn E S F Unit) := by
  refine Prog.rel_when fun _ h => ?_
  exact .tail (.single (.error streamId e.kind)) (.placid (step_set rfl))

theorem moves_dispatchWriteResult (streamId : StreamId) (res : StreamResult) :
    Prog.Rel (NetworkMoves d) (dispatchWriteResult d streamId res : Conn E S F Unit) := by
  cases res with
  | ok bytesCount startOffset wouldBlock pendingWrite =>
    exact moves_of_placid (Prog.rel_bind (step_streamsDo (fun _ _ => rfl) _) fun _ =>
      Prog.rel_when fun _ => step_inform rfl _)
  | err e => exact moves_handleStreamError d streamId e
  | streamClosed => exact moves_of_placid (step_inform rfl _)

theorem moves_writeStream (streamId : StreamId) (write : X → E → Option (StreamResult × X × E)) :
    Prog.Rel (NetworkMoves d) (writeStream d streamId write) := by
  refine Prog.rel_bind (moves_of_placid step_conn) fun c => ?_
  cases d.streams.getStream c.streams streamId with
  | none => exact Prog.rel_pure ()
  | some stream =>
    refine Prog.rel_bind (moves_of_placid (placid_streamDo streamId stream write)) fun res => ?_
    refine Prog.rel_bind (moves_of_placid (step_emit rfl)) fun _ => ?_
    refine Prog.rel_bind (moves_of_placid (step_noteTunResult d (fun _ _ => rfl) streamId res))
      fun _ => ?_
    exact Prog.rel_bind (moves_dispatchWriteResult d streamId res) fun _ =>
      moves_of_placid (step_emit rfl)

theorem moves_handleOpen (streamId : StreamId) (target : OpenStream) :
    Prog.Rel (NetworkMoves d) (handleOpen d streamId target) := by
  refine Prog.rel_bind (moves_of_placid (step_streamsDo (fun _ _ => rfl) _)) fun result => ?_
  cases result with
  | error e =>
    exact Prog.rel_bind (moves_of_placid (step_emit rfl)) fun _ =>
      moves_handleStreamError d streamId e
  | ok =>
    intro h
    have hrest : Prog.Rel (NetworkMoves d) (Prog.when (target.kind ≠ .udp)
        (setPollEnableWaitForWrite d streamId true) : Conn E S F Unit) :=
      moves_of_placid (Prog.rel_when fun _ => step_streamsDo (fun _ _ => rfl) _)
    exact (Relation.ReflTransGen.single (.opened streamId target)).trans (hrest _)

theorem moves_handleWrite (streamId : StreamId) (data : Bytes) :
    Prog.Rel (NetworkMoves d) (handleWrite d streamId data) := by
  rcases handleWrite_cases d streamId data with heq | ⟨key, heq⟩ | heq
  · exact heq ▸ moves_of_placid (step_writePcap d (fun _ _ => rfl) Obs.isPlacid_of_isCapture data)
  · exact heq ▸ moves_of_placid (step_inform rfl _)
  · exact heq ▸ moves_writeStream d streamId _

theorem moves_handleAction (action : Action) :
    Prog.Rel (NetworkMoves d) (handleAction d action) := by
  obtain ⟨streamId, kind⟩ := action
  cases kind with
  | openStream target firstWrite =>
    refine Prog.rel_bind (moves_handleOpen d streamId target) fun _ => ?_
    cases firstWrite with
    | none => exact Prog.rel_pure ()
    | some data => exact moves_handleWrite d streamId data
  | write data => exact moves_handleWrite d streamId data
  | close =>
    exact moves_of_placid (Prog.rel_bind (step_streamsDo (fun _ _ => rfl) _) fun _ => step_emit rfl)
  | shutdown =>
    refine moves_of_placid (Prog.rel_bind step_conn fun c => ?_)
    cases d.streams.getStream c.streams streamId with
    | none => exact Prog.rel_pure ()
    | some stream =>
      exact Prog.rel_bind (placid_streamDo streamId stream _) fun _ => step_emit rfl
  | setOption | read _ | error _ | done => exact Prog.rel_pure ()

theorem moves_pullAction : Prog.Rel (NetworkMoves d) (pullAction d : Conn E S F Bool) := by
  refine Prog.rel_bind (moves_of_placid (step_query _)) fun b => ?_
  cases b with
  | false => exact Prog.rel_pure false
  | true =>
    refine Prog.rel_bind (moves_of_placid (step_ask (fun _ => rfl) _)) fun a => ?_
    cases a with
    | none => exact Prog.rel_pure true
    | some action => exact Prog.rel_bind (moves_handleAction d action) fun _ => Prog.rel_pure true

theorem moves_pullLocalAgent : Prog.Rel (NetworkMoves d) (pullLocalAgent d : Conn E S F Bool) :=
  moves_of_placid (step_pullLocalAgent d (fun _ _ _ => rfl) (fun _ => rfl) fun _ _ => rfl)

theorem moves_pullFromClient (n : Nat) :
    Prog.Rel (NetworkMoves d) (pullFromClient d n : Conn E S F Unit) := by
  refine Prog.rel_bind (Prog.rel_loop (moves_pullAction d) n) fun _ => ?_
  refine Prog.rel_bind (moves_of_placid step_conn) fun c => ?_
  exact Prog.rel_when fun _ => Prog.rel_loop (moves_pullLocalAgent d) n

theorem moves_handleReadResult (n : Nat) (streamId : StreamId) (res : StreamResult) :
    Prog.Rel (NetworkMoves d) (handleReadResult d n streamId res : Conn E S F Bool) := by
  cases res with
  | err e => exact Prog.rel_bind (moves_handleStreamError d streamId e) fun _ => Prog.rel_pure _
  | streamClosed =>
    exact Prog.rel_bind (moves_of_placid (step_inform rfl _)) fun _ => Prog.rel_pure _
  | ok bytesRead startOffset wouldBlock pendingWrite =>
    refine Prog.rel_bind (moves_of_placid step_conn) fun c => ?_
    refine Prog.rel_bind (Prog.rel_when fun _ => ?_) fun _ => Prog.rel_pure _
    refine Prog.rel_bind (moves_of_placid (Prog.rel_bind step_conn fun c => ?_)) fun _ =>
      moves_pullFromClient d n
    cases slice? c.streamReadBuffer startOffset bytesRead with
    | none => exact Prog.rel_stall
    | some data => exact step_inform rfl _

theorem moves_readStream (n : Nat) (streamId : StreamId) :
    Prog.Rel (NetworkMoves d) (readStream d n streamId) := by
  refine Prog.rel_bind (moves_of_placid step_conn) fun c => ?_
  cases d.streams.getStream c.streams streamId with
  | none => exact Prog.rel_pure false
  | some stream =>
    refine Prog.rel_bind (moves_of_placid ?_) fun res => ?_
    · refine Prog.rel_bind step_conn fun c => ?_
      refine Prog.rel_bind (placid_streamDo streamId stream _) fun r => ?_
      refine Prog.rel_bind (step_update fun _ => rfl) fun _ => ?_
      exact Prog.rel_bind (step_emit rfl) fun _ => Prog.rel_pure r.1
    · refine Prog.rel_bind (moves_of_placid (step_noteTunResult d (fun _ _ => rfl) streamId res))
        fun _ => ?_
      exact moves_handleReadResult d n streamId res

theorem moves_onResumed : Prog.Rel (NetworkMoves d) (onResumed d : Conn E S F Unit) := by
  intro h
  have hmove := NetworkMove.resumed (d := d) (h := h)
  unfold onResumed Prog.when
  simp only [Prog.bind_apply, query, conn, update, Prog.modify_apply]
  dsimp only at hmove
  split at hmove
  · rw [if_pos ‹_›]
    exact .tail (.single hmove) (.placid (step_set rfl))
  · rw [if_neg ‹_›]
    exact .single hmove

theorem placid_setState (state : ConnectionState) :
    Prog.Rel Placid (setState d state : Conn E S F Unit) :=
  step_setState d (fun _ _ => rfl) (fun _ => rfl) state

theorem moves_updateState : Prog.Rel (NetworkMoves d) (updateState d : Conn E S F Unit) := by
  intro h
  rw [updateState_eq]
  have hobserved : Placid h (observeTunnel d h) :=
    step_observeTunnel d h (fun _ _ _ => rfl) fun _ => rfl
  have hset := placid_setState d (computedState d h) (observeTunnel d h)
  exact .tail (.single (.placid (trans_of Placid hobserved hset))) (.connected _)

theorem placid_handleMessage {m : PvpnMessage} (hm : m.connectivity = none) :
    Prog.Rel Placid (handleMessage d m : Conn E S F Unit) := by
  cases haside : m.isAside with
  | true =>
    exact step_handleMessage_of_isAside d (fun _ _ => rfl) (fun _ _ => rfl)
      Obs.isPlacid_of_isCapture (fun _ => rfl) haside
  | false =>
    cases m with
    | disconnect => exact step_update fun _ => rfl
    | update u =>
      exact step_handleUpdate d (fun _ _ => rfl) (fun _ _ => rfl) (fun _ => rfl) (fun _ => rfl)
        (fun _ => rfl) (step_updateTun d (fun _ _ => rfl) (fun _ _ => rfl) fun _ _ => rfl) u
    | connectivityChange event => cases hm
    | _ => cases haside

/-- A connectivity message, from the moment it is read. -/
theorem moves_connectivity (event : ConnectivityEvent) (e : E) (h : Hist (Sys E S F) Obs) :
    NetworkMoves d h (handleMessage d (.connectivityChange event)
      ((h.set ⟨e, h.now.conn⟩).emit (.recv (some (.connectivityChange event))))).2 := by
  have hmove := NetworkMove.changed (d := d) (h := h) event (d.client.getTunnelInfo e).1 e
    (d.client.getTunnelInfo e).2
  unfold handleMessage onConnectivityChange
  simp only [Prog.bind_apply, ask_eq, conn, update, Prog.modify_apply, Hist.emit_now, Hist.set_now,
    NetworkRecoveryHandler.onConnectivityChange_networkAvailable]
  unfold notice at hmove
  cases havail : event.available with
  | true =>
    rw [havail] at hmove
    exact .tail (.single hmove) (.placid (step_set rfl))
  | false =>
    rw [havail] at hmove
    have htold := placid_env ((reportEvent event (d.client.getTunnelInfo e).1 e
      (d.client.getTunnelInfo e).2 h).emit .notifyNetworkDown)
      (d.client.notifyNetworkDown (d.client.getTunnelInfo e).2)
    have hset := placid_setState d (networkUnavailableState (d.client.getTunnelInfo e).1)
    exact .tail (.single hmove) (.placid (trans_of Placid htold (hset _)))

theorem moves_receiveMessage : Prog.Rel (NetworkMoves d) (receiveMessage d : Conn E S F Bool) := by
  intro h
  unfold receiveMessage
  rw [Prog.bind_of_some (ask_eq _ _ _)]
  have hrecv (m : Option PvpnMessage) (hm : (Obs.recv m).isPlacid = true) :
      Placid h ((h.set ⟨(d.tryRecv h.now.env).2, h.now.conn⟩).emit (.recv m)) :=
    trans_of Placid (placid_env h _) (step_emit hm _)
  cases (d.tryRecv h.now.env).1 with
  | none => exact .single (.placid (hrecv none rfl))
  | some m =>
    refine Prog.leaves_bind (I := NetworkMoves d h) ?_ fun _ => Prog.inv_pure _
    cases hevent : m.connectivity with
    | none =>
      have hplacid : (Obs.recv (some m)).isPlacid = true := by
        cases m <;> first | rfl | cases hevent
      exact .single (.placid (trans_of Placid (hrecv _ hplacid) (placid_handleMessage d hevent _)))
    | some event =>
      cases m with
      | connectivityChange event' => exact moves_connectivity d event' _ h
      | _ => cases hevent

/-- The last lines of the constructor. -/
theorem placid_options (cfg : InitialConfig) : Prog.Rel Placid (do
    ifSome cfg.pcapFile (startPacketCapture d)
    ifSome cfg.localAgentSettings (watchLocalAgent d) : Conn E S F Unit) := by
  refine Prog.rel_bind (step_ifSome fun file => ?_) fun _ => step_ifSome fun settings => ?_
  · exact step_startPacketCapture d (fun _ _ => rfl) Obs.isPlacid_of_isCapture file
  · exact Prog.rel_bind (Prog.rel_forEach (fun _ => step_inform rfl _) _) fun _ =>
      step_inform rfl _

theorem moves_new (cfg : InitialConfig) :
    Prog.Rel (NetworkMoves d) (new d cfg : Conn E S F Unit) := by
  refine Prog.rel_bind (moves_of_placid step_conn) fun c => ?_
  refine Prog.rel_bind (moves_of_placid (Prog.rel_forEach (fun _ => step_inform rfl _) _))
    fun _ => ?_
  refine Prog.rel_bind (fun h => ?_) fun _ => moves_of_placid (placid_options d cfg)
  unfold announceNetwork
  rw [conn_bind]
  cases havail : h.now.conn.networkRecoveryHandler.networkAvailable with
  | true => exact .refl
  | false =>
    rw [Prog.when_pos (by simp)]
    have htold := placid_env (h.emit .notifyNetworkDown) (d.client.notifyNetworkDown h.now.env)
    have hset := placid_setState d (.connecting [] [.waitingForNetwork])
    exact .tail (.single (.announced havail)) (.placid (trans_of Placid htold (hset _)))

theorem keptByLoop_moves (h₀ : Hist (Sys E S F) Obs) : KeptByLoop d (NetworkMoves d h₀) where
  pull := inv_of_moves (moves_pullAction d) h₀
  agent := inv_of_moves (moves_pullLocalAgent d) h₀
  readStream n streamId := inv_of_moves (moves_readStream d n streamId) h₀
  write streamId := inv_of_moves (moves_writeStream d streamId _) h₀
  clock := inv_of_moves (moves_of_placid (step_query _)) h₀
  resumed := inv_of_moves (moves_onResumed d) h₀
  wait := inv_of_moves
    (moves_of_placid (step_waitForStreams d (fun _ _ => rfl) (fun _ => rfl) fun _ => rfl)) h₀
  receive := inv_of_moves (moves_receiveMessage d) h₀
  updateState := inv_of_moves (moves_updateState d) h₀
  loopEnd := inv_of_moves (moves_of_placid (step_onConnectionLoopEnd d (fun _ _ => rfl)
    (fun _ _ => rfl) rfl Obs.isPlacid_of_isCapture fun _ => rfl)) h₀

/-- **A run is a sequence of moves.** -/
theorem exec_moves (cfg : InitialConfig) (streams : S) (env : E) (n : Nat) :
    NetworkMoves d (Hist.init ⟨env, initial d cfg streams⟩) (exec d cfg streams env n).2 :=
  Prog.inv_bind (inv_of_moves (moves_new d cfg) _)
    (fun _ => (keptByLoop_moves d _).keptByIterations.run n) _ .refl

variable {d}

/-- What every move keeps holds after every run. -/
theorem exec_of_moves {I : Hist (Sys E S F) Obs → Prop}
    (hI : ∀ h h', NetworkMove d h h' → I h → I h') {cfg : InitialConfig} {streams : S} {env : E}
    (hinit : I (Hist.init ⟨env, initial d cfg streams⟩)) (n : Nat) :
    I (exec d cfg streams env n).2 := by
  have hmoves := exec_moves d cfg streams env n
  generalize (exec d cfg streams env n).2 = h at hmoves ⊢
  induction hmoves with
  | refl => exact hinit
  | tail _ hmove ih => exact hI _ _ hmove ih

end PvpnConnection

end Protun
