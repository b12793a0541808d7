import Protun.Connection.Frame

/-!
# Invariants of the connection loop

`KeptByIterations` lists what has to be checked of an invariant, one field for each part of an
iteration, and `KeptByIterations.run` is the invariant of the whole loop. `KeptByLoop` is the list
for an invariant that also holds between a poll and the reads and writes it leads to, and `Kept` for
one that holds inside these as well: that it survives what does not touch the streams (`Aside`), an
action of the client, a read, a write and a message of the local agent (`KeptByIo`), and then the
poll, a message of the API, `update_state` and the end of the loop (`Kept.run`). Most invariants
ignore the streams and survive all input and output (`KeptByIo.of_frame`), and most do not care what
the local agent says either: they survive `Background` work (`Kept.of_background`).
-/

namespace Protun

open Trace

/-! ## Background work -/

/-- Everything but messages, tunnel information, and what is decided from them. -/
def Obs.isBackground : Obs → Bool
  | .recv _ | .tunnelInfo _ | .stateChanged _ | .peerAdd _ | .peerRemove _ | .setSettings _
  | .updated _ | .loopEnd => false
  | _ => true

theorem Obs.isBackground_of_isQuiet (o : Obs) (h : o.isQuiet = true) : o.isBackground = true := by
  cases o <;> first | rfl | exact h

namespace PvpnConnection

open Conn

variable {E S X F α : Type} (d : PvpnDependencies E S X F)

/-- The fields that background work leaves alone. The handler may have changed, but it is there
exactly if it was. -/
structure SameMode (c c' : PvpnConnection S F) : Prop where
  connectionState : c'.connectionState = c.connectionState
  peers : c'.peers = c.peers
  localAgentSettings : c'.localAgentSettings = c.localAgentSettings
  mode : c'.localAgentHandler.isSome = c.localAgentHandler.isSome
  networkAvailable :
    c'.networkRecoveryHandler.networkAvailable = c.networkRecoveryHandler.networkAvailable

instance isPreorder_sameMode : IsPreorder (PvpnConnection S F) SameMode where
  refl _ := ⟨rfl, rfl, rfl, rfl, rfl⟩
  trans _ _ _ h₁ h₂ := {
    connectionState := h₂.connectionState.trans h₁.connectionState
    peers := h₂.peers.trans h₁.peers
    localAgentSettings := h₂.localAgentSettings.trans h₁.localAgentSettings
    mode := h₂.mode.trans h₁.mode
    networkAvailable := h₂.networkAvailable.trans h₁.networkAvailable }

theorem SameCore.sameMode {c c' : PvpnConnection S F} (h : SameCore c c') : SameMode c c' :=
  ⟨h.connectionState, h.peers, h.localAgentSettings, by rw [h.localAgentHandler],
    h.networkAvailable⟩

/-- Input, output and messages of the local agent. -/
abbrev Background (h h' : Hist (Sys E S F) Obs) : Prop := Step SameMode Obs.isBackground h h'

theorem Step.background {h h' : Hist (Sys E S F) Obs} (hf : Frame Obs.isQuiet h h') :
    Background h h' :=
  hf.mono (fun _ _ => SameCore.sameMode) Obs.isBackground_of_isQuiet

/-- A round of the local agent up to its events: the handler after the message, if there is one. -/
def agentStep (h : Hist (Sys E S F) Obs) : Hist (Sys E S F) Obs :=
  let r := d.client.pullLocalAgent h.now.env
  let h := (h.set { h.now with env := r.2 }).emit (.pulledLocalAgent r.1)
  match r.1, h.now.conn.localAgentHandler with
  | some message, some handler => h.set { h.now with conn := { h.now.conn with
      localAgentHandler := some (handler.handleMessage message).2 } }
  | _, _ => h

/-- The events of that round. -/
def agentEvents (h : Hist (Sys E S F) Obs) : List Event :=
  match (d.client.pullLocalAgent h.now.env).1, h.now.conn.localAgentHandler with
  | some message, some handler => (handler.handleMessage message).1.toList
  | _, _ => []

theorem agentEvents_isOfAgent (h : Hist (Sys E S F) Obs) (e : Event) (he : e ∈ agentEvents d h) :
    e.isOfAgent = true := by
  unfold agentEvents at he
  split at he
  · exact handleMessage_isOfAgent (Option.mem_toList.mp he)
  · cases he

/-- A round of the local agent is its step followed by its events. -/
theorem pullLocalAgent_eq (h : Hist (Sys E S F) Obs) :
    (pullLocalAgent d h).2 =
      (Prog.forEach (agentEvents d h) (emitEvent d) (agentStep d h)).2 := by
  unfold pullLocalAgent agentStep agentEvents ask
  simp only [Prog.bind_apply, query, Prog.emit_apply, Prog.pure_apply]
  cases hm : (d.client.pullLocalAgent h.now.env).1 with
  | none => rfl
  | some message =>
    simp only [Prog.bind_apply, conn, Hist.emit_now, Hist.set_now]
    cases hh : h.now.conn.localAgentHandler with
    | none => rfl
    | some handler =>
      simp only [Prog.bind_apply, update, Prog.modify_apply, Hist.emit_now, Hist.set_now]
      generalize Prog.forEach _ _ _ = r
      obtain ⟨r, h'⟩ := r
      cases r <;> rfl

theorem step_pullLocalAgent {K : PvpnConnection S F → PvpnConnection S F → Prop} {Q : Obs → Bool}
    [IsPreorder (PvpnConnection S F) K]
    (hK : ∀ c handler, handler.isSome = c.localAgentHandler.isSome →
      K c { c with localAgentHandler := handler })
    (hpulled : ∀ m, Q (.pulledLocalAgent m) = true)
    (hevent : ∀ e, Event.isOfAgent e = true → Q (.event e) = true) :
    Prog.Rel (Step K Q) (pullLocalAgent d) := by
  intro h
  rw [pullLocalAgent_eq]
  refine trans_of (Step K Q) ?_ (Prog.rel_forEach_mem
    (fun e he => step_inform (hevent e (agentEvents_isOfAgent d h e he)) _) _)
  have hpull : Step K Q h ((h.set { h.now with env := (d.client.pullLocalAgent h.now.env).2 }).emit
      (.pulledLocalAgent (d.client.pullLocalAgent h.now.env).1)) :=
    step_ask hpulled d.client.pullLocalAgent h
  unfold agentStep
  dsimp only
  split
  · rename_i handler hh
    refine trans_of (Step K Q) hpull ?_
    refine step_set (hK _ _ ?_)
    simpa using (congrArg Option.isSome hh).symm
  · exact hpull

theorem background_pullLocalAgent : Prog.Rel Background (pullLocalAgent d) :=
  step_pullLocalAgent d (fun _ _ hm => ⟨rfl, rfl, rfl, hm, rfl⟩) (fun _ => rfl) fun _ _ => rfl

/-! ## Rounds -/

theorem inv_conn {I : Hist (Sys E S F) Obs → Prop} : Prog.Inv I (conn : Conn E S F _) :=
  fun _ h => h

/-- What has to be checked of an invariant of the reads and writes of a round. It need not hold
between a read and the handling of its result. -/
structure KeptByRounds (I : Hist (Sys E S F) Obs → Prop) : Prop where
  pull : Prog.Inv I (pullAction d)
  agent : Prog.Inv I (pullLocalAgent d)
  readStream : ∀ n streamId, Prog.Inv I (readStream d n streamId)
  write : ∀ streamId, Prog.Inv I (writeStream d streamId d.streams.writeFromBuffer)

/-- What has to be checked of an invariant of how the result of a read is handled. -/
structure KeptByResults (streamId : StreamId) (I : Hist (Sys E S F) Obs → Prop) : Prop where
  push : ∀ startOffset bytesRead, Prog.Inv I (pushRead d streamId startOffset bytesRead)
  error : ∀ e, Prog.Inv I (handleStreamError d streamId e)
  close : Prog.Inv I (PvpnConnection.push d ⟨streamId, .close⟩)

/-- What has to be checked of an invariant of the reads of the stream `streamId`. -/
structure KeptByReads (streamId : StreamId) (I : Hist (Sys E S F) Obs → Prop) : Prop
    extends KeptByResults d streamId I where
  read : ∀ stream h, d.streams.getStream h.now.conn.streams streamId = some stream →
    I h → I (readInto d streamId stream h).2
  note : ∀ res, Prog.Inv I (noteTunResult d streamId res)

/-- What has to be checked of an invariant of the iterations. It need not hold between a poll and
the handling of its results. -/
structure KeptByIterations (I : Hist (Sys E S F) Obs → Prop) : Prop where
  pull : Prog.Inv I (pullAction d)
  agent : Prog.Inv I (pullLocalAgent d)
  clock : Prog.Inv I (query d.client.setCurrentTime)
  receive : Prog.Inv I (receiveMessage d)
  updateState : Prog.Inv I (updateState d)
  poll : ∀ n, Prog.Inv I (pollFromStreams d n)
  loopEnd : Prog.Inv I (onConnectionLoopEnd d)

/-- What has to be checked of an invariant of the loop. -/
structure KeptByLoop (I : Hist (Sys E S F) Obs → Prop) : Prop extends KeptByRounds d I where
  clock : Prog.Inv I (query d.client.setCurrentTime)
  resumed : Prog.Inv I (onResumed d)
  wait : Prog.Inv I (waitForStreams d)
  receive : Prog.Inv I (receiveMessage d)
  updateState : Prog.Inv I (updateState d)
  loopEnd : Prog.Inv I (onConnectionLoopEnd d)

section Rounds

variable {d} {I : Hist (Sys E S F) Obs → Prop}

theorem inv_pullFromClient (hpull : Prog.Inv I (pullAction d))
    (hagent : Prog.Inv I (pullLocalAgent d)) (n : Nat) : Prog.Inv I (pullFromClient d n) := by
  refine Prog.inv_bind (Prog.inv_loop hpull n) fun _ => Prog.inv_bind inv_conn fun c => ?_
  exact Prog.inv_when fun _ => Prog.inv_loop hagent n

section Reading

variable {streamId : StreamId} (hpull : Prog.Inv I (pullAction d))
  (hagent : Prog.Inv I (pullLocalAgent d))
include hpull hagent

theorem KeptByResults.handleReadResult (hk : KeptByResults d streamId I) (n : Nat)
    (res : StreamResult) : Prog.Inv I (handleReadResult d n streamId res) := by
  cases res with
  | ok bytesRead startOffset wouldBlock pendingWrite =>
    refine Prog.inv_bind inv_conn fun c => ?_
    refine Prog.inv_bind (Prog.inv_when fun _ => ?_) fun _ => Prog.inv_pure _
    exact Prog.inv_bind (hk.push _ _) fun _ => inv_pullFromClient hpull hagent n
  | err e => exact Prog.inv_bind (hk.error e) fun _ => Prog.inv_pure _
  | streamClosed => exact Prog.inv_bind hk.close fun _ => Prog.inv_pure _

/-- A read keeps an invariant that survives its result and the pull that follows. -/
theorem KeptByReads.readStream (hk : KeptByReads d streamId I) (n : Nat) :
    Prog.Inv I (readStream d n streamId) := by
  intro h hI
  unfold PvpnConnection.readStream
  rw [conn_bind]
  cases hg : d.streams.getStream h.now.conn.streams streamId with
  | none => exact hI
  | some stream =>
    refine Prog.leaves_bind (hk.read stream h hg hI) fun res => ?_
    exact Prog.inv_bind (hk.note res) fun _ => hk.handleReadResult hpull hagent n res

end Reading

section IgnoresIo

variable {K : PvpnConnection S F → PvpnConnection S F → Prop} {Q : Obs → Bool}
  [IsPreorder (PvpnConnection S F) K]

section Calls

variable {streamId : StreamId} (hK : IgnoresCalls d streamId K)
  (hread : ∀ res, Q (.read streamId res) = true)
  (hpush : ∀ data, Q (.push ⟨streamId, .read data⟩) = true)
  (hclose : Q (.push ⟨streamId, .close⟩) = true)
  (herr : ∀ kind, Q (.pushError streamId kind) = true)
  (hio : ∀ h h', Step K Q h h' → I h → I h')
include hK hpush hclose herr hio

theorem IgnoresCalls.keptByResults : KeptByResults d streamId I where
  push startOffset bytesRead := (step_pushRead d hpush startOffset bytesRead).inv hio
  error e := (step_handleStreamError d hK.network herr e).inv hio
  close := Prog.Rel.inv (R := Step K Q) (step_inform hclose _) hio

include hread

theorem IgnoresCalls.keptByReads : KeptByReads d streamId I where
  toKeptByResults := hK.keptByResults hpush hclose herr hio
  read stream h _ := hio h _ (hK.readInto hread stream h)
  note res := (step_noteTunResult d hK.currentTunError streamId res).inv hio

end Calls

variable (hK : IgnoresIo K) (hread : ∀ id res, Q (.read id res) = true)
  (hpush : ∀ id data, Q (.push ⟨id, .read data⟩) = true)
  (hio : ∀ h h', Step K Q h h' → I h → I h') (hagent : Prog.Inv I (pullLocalAgent d))
include hK hread hpush hio hagent

/-- An invariant that survives input and output if packet capture and the local agent keep it. -/
theorem IgnoresIo.keptByRounds (hQ : ∀ o, Obs.isStreamIo o = true → Q o = true)
    (hpcap : ∀ data, Prog.Inv I (writePcap d data)) : KeptByRounds d I where
  pull := hK.inv_pullAction d hio hQ hpcap
  agent := hagent
  write streamId := (hK.writeStream d (Obs.forall_isStreamIoOf hQ streamId) _).inv hio
  readStream n streamId := ((hK.calls d streamId).keptByReads (hread streamId) (hpush streamId)
    (hQ _ rfl) (fun _ => hQ _ rfl) hio).readStream (hK.inv_pullAction d hio hQ hpcap) hagent n

end IgnoresIo

section Reads

variable (hread : ∀ n streamId, Prog.Inv I (readStream d n streamId))
include hread

theorem inv_readRound (n : Nat) (streamIds : List StreamId) :
    Prog.Inv I (readRound d n streamIds) := by
  induction streamIds with
  | nil => exact Prog.inv_pure _
  | cons streamId streamIds ih =>
    refine Prog.inv_bind (hread n streamId) fun _ => ?_
    exact Prog.inv_bind ih fun _ => Prog.inv_pure _

theorem inv_readRounds (n fuel : Nat) (streamIds : List StreamId) :
    Prog.Inv I (readRounds d n fuel streamIds) := by
  induction fuel generalizing streamIds with
  | zero => cases streamIds <;> exact fun _ h => h
  | succ fuel ih =>
    cases streamIds with
    | nil => exact Prog.inv_pure ()
    | cons streamId streamIds =>
      exact Prog.inv_bind (inv_readRound hread n (streamId :: streamIds)) fun next => ih next

end Reads

namespace KeptByRounds

variable (hk : KeptByRounds d I)
include hk

theorem handlePollResults (n : Nat) (results : List PollResult) :
    Prog.Inv I (handlePollResults d n results) := by
  refine Prog.inv_bind (Prog.inv_forEach (fun res => Prog.inv_when fun _ => ?_) results)
    fun _ => inv_readRounds hk.readStream n n _
  exact hk.write res.streamId

end KeptByRounds

namespace KeptByLoop

variable (hk : KeptByLoop d I)
include hk

theorem pollFromStreams (n : Nat) : Prog.Inv I (pollFromStreams d n) := by
  refine Prog.inv_bind hk.wait fun results => Prog.inv_bind hk.resumed fun _ => ?_
  cases results with
  | error e => exact Prog.inv_pure ()
  | ok results => exact hk.handlePollResults n results

theorem keptByIterations : KeptByIterations d I where
  pull := hk.pull
  agent := hk.agent
  clock := hk.clock
  receive := hk.receive
  updateState := hk.updateState
  poll := hk.pollFromStreams
  loopEnd := hk.loopEnd

end KeptByLoop

namespace KeptByIterations

variable (hk : KeptByIterations d I)
include hk

theorem handleMessages (n : Nat) : Prog.Inv I (handleMessages d n) :=
  Prog.inv_bind (Prog.inv_loop hk.receive n) fun _ =>
    Prog.inv_bind inv_conn fun _ => Prog.inv_pure _

theorem iteration (n : Nat) : Prog.Inv I (iteration d n) := by
  refine Prog.inv_bind (hk.handleMessages n) fun goOn => ?_
  cases goOn with
  | false => exact Prog.inv_pure _
  | true =>
    refine Prog.inv_bind hk.clock fun _ => ?_
    refine Prog.inv_bind (inv_pullFromClient hk.pull hk.agent n) fun _ => ?_
    refine Prog.inv_bind hk.updateState fun _ => ?_
    exact Prog.inv_bind (hk.poll n) fun _ => Prog.inv_pure _

/-- **What every part of an iteration keeps is an invariant of the loop**, however long it runs. -/
theorem run (n : Nat) : Prog.Inv I (run d n) :=
  Prog.inv_bind (Prog.inv_loop (hk.iteration n) n) fun _ => hk.loopEnd

/-- A run that has returned is the end of the loop from a history that satisfies the invariant. -/
theorem exec_returned {cfg : InitialConfig} {streams : S} {env : E} {n : Nat}
    (hnew : I (new d cfg (Hist.init ⟨env, initial d cfg streams⟩)).2)
    (hr : (exec d cfg streams env n).1 = some ()) :
    ∃ h, I h ∧ exec d cfg streams env n = onConnectionLoopEnd d h := by
  unfold exec at hr ⊢
  obtain ⟨u, h, h1, heq⟩ := Prog.bind_returned hr
  rw [heq] at hr ⊢
  rw [h1] at hnew
  have hloop := Prog.inv_loop (hk.iteration n) n _ hnew
  obtain ⟨u, h', h2, heq⟩ := Prog.bind_returned hr
  rw [h2] at hloop
  exact ⟨h', hloop, heq⟩

end KeptByIterations

end Rounds

/-! ## Invariants of the loop -/

/-- What has to be checked of what holds throughout the reads and writes of one round. -/
structure KeptByIo (I : Hist (Sys E S F) Obs → Prop) : Prop where
  aside : ∀ h h', Aside h h' → I h → I h'
  pull : Prog.Inv I (pullAction d)
  read : ∀ streamId stream h, d.streams.getStream h.now.conn.streams streamId = some stream →
    I h → I (readInto d streamId stream h).2
  write : ∀ streamId, Prog.Inv I (writeStream d streamId d.streams.writeFromBuffer)
  agent : Prog.Inv I (pullLocalAgent d)

/-- What has to be checked of an invariant of the loop. -/
structure Kept (I : Hist (Sys E S F) Obs → Prop) : Prop extends KeptByIo d I where
  wait : Prog.Inv I (waitForStreams d)
  receive : Prog.Inv I (receiveMessage d)
  updateState : Prog.Inv I (updateState d)
  loopEnd : Prog.Inv I (onConnectionLoopEnd d)

namespace KeptByIo

variable {d} {I : Hist (Sys E S F) Obs → Prop}

/-- What survives input and output. -/
theorem of_frame (io : ∀ h h', Frame Obs.isIo h h' → I h → I h')
    (agent : Prog.Inv I (pullLocalAgent d)) : KeptByIo d I where
  aside h h' ha := io h h' (ha.mono (fun _ _ => Untouched.core) Obs.isIo_of_isAside)
  pull := (frame_pullAction d).inv io
  read streamId stream h _ := io h _ (frame_readInto d streamId stream h)
  write streamId := (frame_writeStream d streamId _).inv io
  agent := agent

variable (hk : KeptByIo d I)
include hk

theorem of_aside {x : Conn E S F α} (hx : Prog.Rel Aside x) : Prog.Inv I x := hx.inv hk.aside

theorem keptByReads (streamId : StreamId) : KeptByReads d streamId I where
  push _ _ := hk.of_aside (aside_pushRead d _ _ _)
  error e := hk.of_aside (aside_handleStreamError d _ e)
  close := hk.of_aside (step_inform rfl _)
  read := hk.read streamId
  note res := hk.of_aside (step_noteTunResult d (fun _ _ => ⟨rfl, rfl⟩) streamId res)

theorem keptByRounds : KeptByRounds d I where
  pull := hk.pull
  agent := hk.agent
  readStream n streamId := (hk.keptByReads streamId).readStream hk.pull hk.agent n
  write := hk.write

end KeptByIo

namespace Kept

variable {d} {I : Hist (Sys E S F) Obs → Prop}

/-- An invariant that survives background work. -/
theorem of_background (hb : ∀ h h', Background h h' → I h → I h')
    (receive : Prog.Inv I (receiveMessage d))
    (updateState : Prog.Inv I (PvpnConnection.updateState d))
    (loopEnd : Prog.Inv I (onConnectionLoopEnd d)) : Kept d I where
  toKeptByIo := .of_frame
    (fun h h' hf => hb h h' (hf.mono (fun _ _ => id) Obs.isQuiet_of_isIo).background)
    ((background_pullLocalAgent d).inv hb)
  wait h := hb h _ (frame_waitForStreams d h).background
  receive := receive
  updateState := updateState
  loopEnd := loopEnd

theorem keptByLoop (hk : Kept d I) : KeptByLoop d I where
  toKeptByRounds := hk.keptByRounds
  clock := hk.of_aside (step_query _)
  resumed := hk.of_aside (aside_onResumed d)
  wait := hk.wait
  receive := hk.receive
  updateState := hk.updateState
  loopEnd := hk.loopEnd

/-- **An invariant that the four core steps and all input and output keep is an invariant of the
loop**, however long it runs. -/
theorem run (hk : Kept d I) (n : Nat) : Prog.Inv I (run d n) := hk.keptByLoop.keptByIterations.run n

end Kept

end PvpnConnection

end Protun
