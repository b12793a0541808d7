import Protun.Agent.Shown
import Protun.Connection.Script
import Protun.Connection.State

/-!
# The local agent inside the loop

The connection thread uses its `LocalAgentHandler` at two places that interleave freely: messages
are pulled at the start of a round and again inside every read, and `update_state` reports a
connected tunnel once a round. `agentOps` reads the sequence of calls off a run's observations.
The model of the connection refines the handler alone: in every run the handler is what these calls
leave in it and the statistics events are those they return (`AgentInv`, `agentInv_exec`). What
`Agent/Calls.lean` and `Agent/Shown.lean` prove of sequences of calls then holds of runs.

* `state_told`: the state computed for a connected tunnel is the one the messages pulled since the
  last peer change call for.
* `localAgentStats_iff`: in a part of a run in which the tunnel stays, six statistics values give
  their event iff no `update_state` runs between the first and the last pull. `stats_split_lost` is
  a run in which one does.
* `agent_message_reflected_iff`: a message is reflected by the next state computed for a peer iff
  the handler remembered that peer when it was pulled. `agent_connected_lost` is a run in which the
  tunnel had moved on and the handler had not been told.
-/

namespace Protun

open Trace

/-! ## The calls of a run -/

/-- The call on the handler that goes with the tunnel information of an `update_state`. -/
def tunnelOp (networkAvailable : Bool) : Option TunnelInfo → Option AgentOp
  | some (.connected protocol peer peerAddr) =>
    if networkAvailable then some (.connectedTo (getPeerConnectionInfo peer peerAddr protocol))
    else none
  | _ => none

/-- The statistics event an observation emits. -/
def Obs.statsEvent : Obs → Option Event
  | .event e => if e.isLocalAgentStats then some e else none
  | _ => none

/-- Observations that have nothing to do with the local agent. -/
def Obs.isOffAgent : Obs → Bool
  | .pulledLocalAgent _ | .updated _ => false
  | .event e => !e.isLocalAgentStats
  | _ => true

theorem Obs.isOffAgent_of_isApi (o : Obs) (h : o.isApi = true) : o.isOffAgent = true := by
  cases o <;> first | rfl | exact h

theorem Obs.isOffAgent_of_isQuiet (o : Obs) (h : o.isQuiet = true) : o.isOffAgent = true := by
  cases o <;> first | rfl | exact h

namespace PvpnConnection

open Conn

variable {E S X F : Type}

/-- The call an observation makes on the handler. -/
def agentOp (x : Obs × Sys E S F) : Option AgentOp :=
  match x.1 with
  | .pulledLocalAgent (some m) => some (.message m)
  | .updated info => tunnelOp x.2.conn.networkRecoveryHandler.networkAvailable info
  | _ => none

/-- The calls of a run on the handler, in order. -/
def agentOps (l : List (Obs × Sys E S F)) : List AgentOp := l.filterMap agentOp

/-- The statistics events of a run, in order. -/
def statsEvents (l : List (Obs × Sys E S F)) : List Event := l.filterMap fun x => x.1.statsEvent

/-- The events and the handler that the calls of a run give from a fresh handler. -/
def replayed (l : List (Obs × Sys E S F)) : List Event × LocalAgentHandler :=
  LocalAgentHandler.run {} (agentOps l)

theorem agentOps_append (l l' : List (Obs × Sys E S F)) :
    agentOps (l ++ l') = agentOps l ++ agentOps l' := List.filterMap_append

theorem statsEvents_append (l l' : List (Obs × Sys E S F)) :
    statsEvents (l ++ l') = statsEvents l ++ statsEvents l' := List.filterMap_append

theorem agentOps_of_offAgent {seg : List (Obs × Sys E S F)}
    (h : ∀ x ∈ seg, x.1.isOffAgent = true) : agentOps seg = [] := by
  refine List.filterMap_eq_nil_iff.mpr fun x hx => ?_
  have ho := h x hx
  unfold agentOp
  cases hx1 : x.1 <;> first | rfl | (rw [hx1] at ho; cases ho)

theorem statsEvents_of_offAgent {seg : List (Obs × Sys E S F)}
    (h : ∀ x ∈ seg, x.1.isOffAgent = true) : statsEvents seg = [] := by
  refine List.filterMap_eq_nil_iff.mpr fun x hx => ?_
  have ho := h x hx
  cases hx1 : x.1 with
  | event e =>
    rw [hx1] at ho
    simpa [Obs.statsEvent, Obs.isOffAgent] using ho
  | _ => rfl

theorem replayed_append (l l' : List (Obs × Sys E S F)) :
    replayed (l ++ l') = ((replayed l).1 ++ ((replayed l).2.run (agentOps l')).1,
      ((replayed l).2.run (agentOps l')).2) := by
  unfold replayed
  rw [agentOps_append, LocalAgentHandler.run_append]

/-! ## The invariant -/

/-- What holds when a message is pulled and when an `update_state` is done: the handler is the
replayed one, and the state shown for a connected tunnel is the handler's. -/
structure AgentChecked (pre : List (Obs × Sys E S F)) (o : Obs) (s : Sys E S F) : Prop where
  pulled : ∀ m, o = .pulledLocalAgent m → s.conn.localAgentHandler = some (replayed pre).2
  updated : ∀ info, o = .updated info →
    s.conn.localAgentHandler = some (replayed (pre ++ [(o, s)])).2
  state : ∀ info peer, o = .updated info →
    tunnelOp s.conn.networkRecoveryHandler.networkAvailable info = some (.connectedTo peer) →
    s.conn.connectionState = (replayed (pre ++ [(o, s)])).2.getState peer
  events : ∀ info, o = .updated info →
    statsEvents pre = (replayed pre).1.filter Event.isLocalAgentStats

/-- In local-agent mode the handler and the statistics events are the replayed ones. -/
structure AgentInv (h : Hist (Sys E S F) Obs) : Prop where
  handler : h.now.conn.localAgentHandler = some (replayed h.past).2
  events : statsEvents h.past = (replayed h.past).1.filter Event.isLocalAgentStats
  checked : Always AgentChecked h.past

theorem agentChecked_of_offAgent {pre : List (Obs × Sys E S F)} {o : Obs} {s : Sys E S F}
    (ho : o.isOffAgent = true) : AgentChecked pre o s where
  pulled m h := by subst h; cases ho
  updated info h := by subst h; cases ho
  state info peer h := by subst h; cases ho
  events info h := by subst h; cases ho

/-- Work that has nothing to do with the local agent. -/
abbrev OffAgent (h h' : Hist (Sys E S F) Obs) : Prop := Step SameHandler Obs.isOffAgent h h'

theorem AgentInv.offAgent {h h' : Hist (Sys E S F) Obs} (hs : OffAgent h h') (hI : AgentInv h) :
    AgentInv h' := by
  obtain ⟨seg, hseg, hq⟩ := hs.observed
  have hrep : replayed h'.past = replayed h.past := by
    unfold replayed
    rw [hseg, agentOps_append, agentOps_of_offAgent hq, List.append_nil]
  refine ⟨?_, ?_, ?_⟩
  · rw [hrep]
    exact hs.core.trans hI.handler
  · rw [hrep, hseg, statsEvents_append, statsEvents_of_offAgent hq, List.append_nil]
    exact hI.events
  · exact hs.observed.always (fun _ _ _ _ ho => agentChecked_of_offAgent ho) hI.checked

theorem offAgent_of_quiet {h h' : Hist (Sys E S F) Obs} (hf : Frame Obs.isQuiet h h') :
    OffAgent h h' :=
  hf.mono (fun _ _ hc => hc.localAgentHandler) Obs.isOffAgent_of_isQuiet

theorem offAgent_of_api {h h' : Hist (Sys E S F) Obs} (hf : Api h h') : OffAgent h h' :=
  hf.mono (fun _ _ => id) Obs.isOffAgent_of_isApi

variable (d : PvpnDependencies E S X F)

/-- The events a message returns are emitted, and only they. -/
theorem statsEvents_emitted {seg : List (Obs × Sys E S F)} {events : List Event}
    (h : seg.map Prod.fst = events.map Obs.event) :
    statsEvents seg = events.filter Event.isLocalAgentStats ∧ agentOps seg = [] := by
  induction seg generalizing events with
  | nil =>
    have he : events = [] := by simpa using h.symm
    subst he
    exact ⟨rfl, rfl⟩
  | cons x seg ih =>
    cases events with
    | nil => cases h
    | cons e events =>
      obtain ⟨hx, hrest⟩ := List.cons.inj h
      obtain ⟨ih1, ih2⟩ := ih hrest
      obtain ⟨o, s⟩ := x
      cases hx
      refine ⟨?_, ?_⟩
      · unfold statsEvents at ih1 ⊢
        rw [List.filterMap_cons, ih1, List.filter_cons]
        cases he : e.isLocalAgentStats <;> simp [Obs.statsEvent, he]
      · unfold agentOps at ih2 ⊢
        rw [List.filterMap_cons, ih2]
        rfl

/-- The call of a round of the local agent, if it pulls a message. -/
def pulledOps (h : Hist (Sys E S F) Obs) : List AgentOp :=
  ((d.client.pullLocalAgent h.now.env).1.map AgentOp.message).toList

theorem agentStep_past (h : Hist (Sys E S F) Obs) :
    (agentStep d h).past = h.past ++ [(.pulledLocalAgent (d.client.pullLocalAgent h.now.env).1,
      { h.now with env := (d.client.pullLocalAgent h.now.env).2 })] := by
  unfold agentStep
  dsimp only
  split <;> rfl

theorem agentOps_pulled (h : Hist (Sys E S F) Obs) (s : Sys E S F) :
    agentOps [((.pulledLocalAgent (d.client.pullLocalAgent h.now.env).1 : Obs), s)] =
      pulledOps d h := by
  unfold pulledOps
  cases (d.client.pullLocalAgent h.now.env).1 <;> rfl

/-- A round runs its call on the handler and emits the events it returns. -/
theorem agentStep_run {h : Hist (Sys E S F) Obs} {handler : LocalAgentHandler}
    (hh : h.now.conn.localAgentHandler = some handler) :
    (agentStep d h).now.conn.localAgentHandler = some (handler.run (pulledOps d h)).2 ∧
      agentEvents d h = (handler.run (pulledOps d h)).1 := by
  unfold agentStep agentEvents pulledOps
  simp only [Hist.emit_now, Hist.set_now, hh]
  cases (d.client.pullLocalAgent h.now.env).1 with
  | none => exact ⟨hh, rfl⟩
  | some m => exact ⟨rfl, (List.append_nil _).symm⟩

theorem inv_pullLocalAgent : Prog.Inv AgentInv (pullLocalAgent d) := by
  intro h hI
  rw [pullLocalAgent_eq]
  obtain ⟨hhandler, hevents⟩ := agentStep_run d hI.handler
  obtain ⟨h', hrun, hconn, seg, hpast, hobs, -⟩ := tells_forEach
    (fun e => tells_inform (E := E) (S := S) (F := F) (.event e) (d.onEvent e)) (agentEvents d h)
    (agentStep d h)
  have hobs' : seg.map Prod.fst = (agentEvents d h).map Obs.event := by
    rw [hobs, List.map_eq_flatMap]
  obtain ⟨hev, hops⟩ := statsEvents_emitted hobs'
  have hrun' : (Prog.forEach (agentEvents d h) (emitEvent d) (agentStep d h)).2 = h' :=
    congrArg Prod.snd hrun
  rw [hrun']
  have hrep : replayed h'.past = ((replayed h.past).1 ++ agentEvents d h,
      ((replayed h.past).2.run (pulledOps d h)).2) := by
    rw [hpast, agentStep_past, replayed_append, replayed_append, hops, agentOps_pulled, ← hevents]
    simp
  refine ⟨?_, ?_, ?_⟩
  · rw [hconn, hhandler, hrep]
  · have hnone : ∀ s, statsEvents [((.pulledLocalAgent (d.client.pullLocalAgent h.now.env).1 : Obs),
        (s : Sys E S F))] = [] := fun _ => rfl
    rw [hrep, List.filter_append, ← hI.events, hpast, agentStep_past, statsEvents_append,
      statsEvents_append, hnone, hev, List.append_nil]
  · rw [hpast, agentStep_past]
    refine always_append (always_snoc.mpr ⟨hI.checked, ?_⟩) fun pre o s post hseg => ?_
    · exact ⟨fun _ _ => hI.handler, fun _ h => (by cases h), fun _ _ h => (by cases h),
        fun _ h => (by cases h)⟩
    · have ho : o ∈ seg.map Prod.fst := List.mem_map.mpr ⟨(o, s), hseg ▸ by simp, rfl⟩
      rw [hobs'] at ho
      obtain ⟨e, -, rfl⟩ := List.mem_map.mp ho
      exact ⟨fun _ h => (by cases h), fun _ h => (by cases h), fun _ _ h => (by cases h),
        fun _ h => (by cases h)⟩

/-- The handler after `update_state` is the handler after its call. -/
theorem handlerAfter_eq {c : PvpnConnection S F} {handler : LocalAgentHandler}
    (hh : c.localAgentHandler = some handler) (info : Option TunnelInfo) :
    handlerAfter info c = some
      (handler.run (tunnelOp c.networkRecoveryHandler.networkAvailable info).toList).2 := by
  unfold handlerAfter tunnelOp
  match info with
  | some (.connected protocol peer peerAddr) =>
    cases c.networkRecoveryHandler.networkAvailable with
    | false => exact hh
    | true => simp [hh, LocalAgentHandler.run, LocalAgentHandler.apply]
  | some (.connecting protocol peer peerAddr) => simpa using hh
  | some .disconnected => simpa using hh
  | none => simpa using hh

/-- The state computed for a connected tunnel is the handler's. -/
theorem getPeerConnectionState_of_tunnelOp {c : PvpnConnection S F} {handler : LocalAgentHandler}
    (hh : c.localAgentHandler = some handler) {info : Option TunnelInfo} {peer : PeerConnectionInfo}
    (hop : tunnelOp c.networkRecoveryHandler.networkAvailable info = some (.connectedTo peer)) :
    (c.getPeerConnectionState info).1 = (handler.onConnectedToPeer peer).getState peer := by
  unfold tunnelOp at hop
  split at hop
  · split at hop
    · rename_i hnet
      cases hop
      simp [getPeerConnectionState, hnet, hh]
    · cases hop
  · cases hop

/-- The call of an `update_state` on the handler, if it makes one. -/
def updateOps (h : Hist (Sys E S F) Obs) : List AgentOp :=
  (tunnelOp h.now.conn.networkRecoveryHandler.networkAvailable (tunnelNow d h)).toList

/-- That call returns no events. -/
theorem run_updateOps (handler : LocalAgentHandler) (h : Hist (Sys E S F) Obs) :
    (handler.run (updateOps d h)).1 = [] := by
  unfold updateOps tunnelOp
  split
  · split <;> simp [LocalAgentHandler.run, LocalAgentHandler.apply]
  · rfl

/-- An `update_state` up to its mark, from `h` to `h'`: the handler has been told, and nothing else
concerns the agent. -/
structure Told (h h' : Hist (Sys E S F) Obs) : Prop where
  observed : Extends (fun o _ => o.isOffAgent = true) h h'
  handler : h'.now.conn.localAgentHandler = some ((replayed h.past).2.run (updateOps d h)).2
  state : h'.now.conn.connectionState = computedState d h
  network : h'.now.conn.networkRecoveryHandler = h.now.conn.networkRecoveryHandler

theorem AgentInv.told {h : Hist (Sys E S F) Obs} (hI : AgentInv h) :
    Told d h (setState d (computedState d h) (observeTunnel d h)).2 := by
  have hset := offAgent_of_api (api_setState d (computedState d h) (observeTunnel d h))
  refine ⟨trans_of (Extends _) ?_ hset.observed, ?_, ?_, ?_⟩
  · exact ⟨_, observeTunnel_past d h, by simp [Obs.isOffAgent]⟩
  · rw [setState_conn, observeTunnel_conn]
    exact handlerAfter_eq hI.handler _
  · rw [setState_conn]
  · rw [setState_conn, observeTunnel_conn]

theorem noteConnected_localAgentHandler (c : PvpnConnection S F) :
    c.noteConnected.localAgentHandler = c.localAgentHandler := by
  unfold noteConnected
  split <;> rfl

theorem noteConnected_connectionState (c : PvpnConnection S F) :
    c.noteConnected.connectionState = c.connectionState := by
  unfold noteConnected
  split <;> rfl

theorem noteConnected_networkAvailable (c : PvpnConnection S F) :
    c.noteConnected.networkRecoveryHandler.networkAvailable =
      c.networkRecoveryHandler.networkAvailable := by
  unfold noteConnected
  split <;> rfl

section Mark

variable {d} {h h' : Hist (Sys E S F) Obs} (ht : Told d h h')
include ht

/-- The mark carries the call. -/
theorem Told.agentOps_mark : agentOps [((.updated (tunnelNow d h) : Obs),
    { h'.now with conn := h'.now.conn.noteConnected })] = updateOps d h := by
  unfold agentOps agentOp updateOps
  simp only [List.filterMap_cons, List.filterMap_nil, noteConnected_networkAvailable, ht.network]
  cases tunnelOp h.now.conn.networkRecoveryHandler.networkAvailable (tunnelNow d h) <;> rfl

/-- Nothing concerns the agent before the mark. -/
theorem Told.replayed_mark : replayed h'.past = replayed h.past := by
  obtain ⟨seg, hseg, hoff⟩ := ht.observed
  unfold replayed
  rw [hseg, agentOps_append, agentOps_of_offAgent hoff, List.append_nil]

theorem Told.statsEvents_mark : statsEvents h'.past = statsEvents h.past := by
  obtain ⟨seg, hseg, hoff⟩ := ht.observed
  rw [hseg, statsEvents_append, statsEvents_of_offAgent hoff, List.append_nil]

theorem Told.replayed_closeUpdate : replayed (closeUpdate (tunnelNow d h) h').past =
    ((replayed h.past).1, ((replayed h.past).2.run (updateOps d h)).2) := by
  rw [closeUpdate_past, replayed_append, ht.agentOps_mark, ht.replayed_mark, run_updateOps,
    List.append_nil]

theorem Told.handler_closeUpdate :
    (closeUpdate (tunnelNow d h) h').now.conn.localAgentHandler =
      some (replayed (closeUpdate (tunnelNow d h) h').past).2 := by
  rw [ht.replayed_closeUpdate, ← ht.handler]
  exact noteConnected_localAgentHandler _

theorem Told.statsEvents_closeUpdate :
    statsEvents (closeUpdate (tunnelNow d h) h').past = statsEvents h.past := by
  rw [closeUpdate_past, statsEvents_append, ht.statsEvents_mark]
  exact List.append_nil _

/-- The state shown for a connected tunnel is that of the handler after the call. -/
theorem Told.state_closeUpdate (hI : AgentInv h) {peer : PeerConnectionInfo}
    (hop : tunnelOp h.now.conn.networkRecoveryHandler.networkAvailable (tunnelNow d h) =
      some (.connectedTo peer)) :
    h'.now.conn.noteConnected.connectionState =
      (replayed (closeUpdate (tunnelNow d h) h').past).2.getState peer := by
  have htold : (replayed (closeUpdate (tunnelNow d h) h').past).2 =
      (replayed h.past).2.onConnectedToPeer peer := by
    rw [ht.replayed_closeUpdate]
    unfold updateOps
    rw [hop]
    rfl
  rw [noteConnected_connectionState, ht.state, htold]
  exact getPeerConnectionState_of_tunnelOp hI.handler hop

theorem AgentInv.closeUpdate (hI : AgentInv h) : AgentInv (closeUpdate (tunnelNow d h) h') := by
  refine ⟨ht.handler_closeUpdate, ?_, always_snoc.mpr ⟨?_, ?_⟩⟩
  · rw [ht.statsEvents_closeUpdate, hI.events, ht.replayed_closeUpdate]
  · exact ht.observed.always (fun _ _ _ _ ho => agentChecked_of_offAgent ho) hI.checked
  · refine ⟨fun _ h => (by cases h), fun info hi => ?_, fun info peer hi hop => ?_, fun _ _ => ?_⟩
    · cases hi
      exact ht.handler_closeUpdate
    · cases hi
      simp only [Hist.set_now, noteConnected_networkAvailable, ht.network] at hop
      exact ht.state_closeUpdate hI hop
    · rw [Hist.set_past, ht.statsEvents_mark, ht.replayed_mark]
      exact hI.events

end Mark

/-- `update_state` is one call on the handler, and it shows the handler's state. -/
theorem inv_updateState_agent : Prog.Inv AgentInv (updateState d) := by
  intro h hI
  rw [updateState_eq]
  exact AgentInv.closeUpdate (hI.told d) hI

theorem kept_agentInv : Kept d AgentInv where
  toKeptByIo := .of_frame (fun _ _ hf => AgentInv.offAgent
    (offAgent_of_quiet (hf.mono (fun _ _ => id) Obs.isQuiet_of_isIo))) (inv_pullLocalAgent d)
  wait h := AgentInv.offAgent (offAgent_of_quiet (frame_waitForStreams d h))
  receive h := AgentInv.offAgent (offAgent_of_api (api_receiveMessage d h))
  updateState := inv_updateState_agent d
  loopEnd h := AgentInv.offAgent (offAgent_of_api (api_onConnectionLoopEnd d h))

/-- **The connection refines its handler.** In local-agent mode the handler of every run and its
statistics events are those of the calls made. -/
theorem agentInv_exec (cfg : InitialConfig) (hmode : cfg.localAgentSettings.isSome) (streams : S)
    (env : E) (n : Nat) : AgentInv (exec d cfg streams env n).2 := by
  have hinit : AgentInv (Hist.init ⟨env, initial d cfg streams⟩ : Hist (Sys E S F) Obs) := by
    refine ⟨?_, rfl, always_nil⟩
    obtain ⟨settings, hs⟩ := Option.isSome_iff_exists.mp hmode
    simp [initial, hs, replayed, agentOps]
  exact Prog.inv_bind (fun h => AgentInv.offAgent (offAgent_of_api (api_new d cfg h)))
    (fun _ => (kept_agentInv d).run n) _ hinit

/-- **What is shown was told.** In every run in local-agent mode, the state computed for a tunnel
connected to `peer` is the one that the messages since the last peer change call for. -/
theorem state_told (cfg : InitialConfig) (hmode : cfg.localAgentSettings.isSome) (streams : S)
    (env : E) (n : Nat) :
    Always (fun pre o s => ∀ info peer, o = .updated info →
      tunnelOp s.conn.networkRecoveryHandler.networkAvailable info = some (.connectedTo peer) →
      let w := told (agentOps (pre ++ [(o, s)]))
      (Admitted w → s.conn.connectionState =
        .connected peer (some { AgentConnectionInfo.ofTold w with restrictions := [] })) ∧
      (¬ Admitted w →
        s.conn.connectionState = .connectingToLocalAgent peer (waitReasonTold w)))
      (exec d cfg streams env n).2.past := by
  intro pre o s post hsplit info peer ho hop
  have hstate := ((agentInv_exec d cfg hmode streams env n).checked pre o s post hsplit).state
    info peer ho hop
  have hshows := (LocalAgentHandler.run_shows (agentOps (pre ++ [(o, s)]))).1
  obtain ⟨hyes, hno⟩ := hshows.getState peer
  rw [hshows.agentInfo] at hyes
  exact ⟨fun hw => hstate.trans (hyes hw), fun hw => hstate.trans (hno hw)⟩

/-! ## Statistics -/

/-- The statistics values pulled in a run, in order. -/
def pulledStats (l : List (Obs × Sys E S F)) : List (StatKind × Option UInt64) :=
  statsOf (agentOps l)

/-- If this is an `update_state`, it finds the network available and the tunnel connected as
given. -/
def findsTunnel (protocol : VpnProtocol) (peer : Peer) (peerAddr : SocketAddr)
    (x : Obs × Sys E S F) : Bool :=
  match x.1 with
  | .updated info => info = some (.connected protocol peer peerAddr) &&
      x.2.conn.networkRecoveryHandler.networkAvailable
  | _ => true

/-- No `update_state` runs between the first and the last pull of a statistics value. -/
def PulledTogether (l : List (Obs × Sys E S F)) : Prop :=
  ∃ a b c, l = a ++ b ++ c ∧ pulledStats a = [] ∧ pulledStats c = [] ∧
    ∀ info s, (Obs.updated info, s) ∉ b

theorem isReset_of_mem_agentOps {l : List (Obs × Sys E S F)} {op : AgentOp} (hop : op ∈ agentOps l)
    (hr : op.isReset = true) : ∃ info s, (Obs.updated info, s) ∈ l := by
  obtain ⟨⟨o, s⟩, hx, hop⟩ := List.mem_filterMap.mp hop
  unfold agentOp at hop
  split at hop
  · cases hop
    cases hr
  · rename_i info ho
    exact ⟨info, s, by rw [← show o = _ from ho]; exact hx⟩
  · cases hop

/-- In a run whose tunnel stays, the values are pulled together iff no call empties the accumulator
between them. -/
theorem pulledTogether_iff {l : List (Obs × Sys E S F)} {protocol : VpnProtocol} {peer : Peer}
    {peerAddr : SocketAddr} (hstays : ∀ x ∈ l, findsTunnel protocol peer peerAddr x = true) :
    PulledTogether l ↔ OneBatch (agentOps l) := by
  constructor
  · rintro ⟨a, b, c, rfl, ha, hc, hb⟩
    refine ⟨agentOps a, agentOps b, agentOps c, by rw [agentOps_append, agentOps_append], ha, hc,
      fun op hop => ?_⟩
    cases hr : op.isReset with
    | false => rfl
    | true =>
      obtain ⟨info, s, hmem⟩ := isReset_of_mem_agentOps hop hr
      exact absurd hmem (hb info s)
  · rintro ⟨a', b', c', hops, ha, hc, hb⟩
    obtain ⟨ab, c, rfl, hab, rfl⟩ := List.filterMap_eq_append_iff.mp hops
    obtain ⟨a, b, rfl, rfl, rfl⟩ := List.filterMap_eq_append_iff.mp hab
    refine ⟨a, b, c, rfl, ha, hc, fun info s hmem => ?_⟩
    -- the tunnel is there, so this `update_state` is a call that empties the accumulator
    have hfinds := hstays (.updated info, s) (by simp [hmem])
    simp only [findsTunnel, Bool.and_eq_true, decide_eq_true_eq] at hfinds
    have hop : agentOp (Obs.updated info, s) =
        some (.connectedTo (getPeerConnectionInfo peer peerAddr protocol)) := by
      simp [agentOp, tunnelOp, hfinds.1, hfinds.2]
    exact absurd (hb _ (List.mem_filterMap.mpr ⟨_, hmem, hop⟩)) (by simp [AgentOp.isReset])

/-- A part of a run in which the tunnel stays connected to one peer and the network available. It
begins with the run, or after an `update_state` that finds them so; it ends with the run, or before
an `update_state`. -/
structure Stays (protocol : VpnProtocol) (peer : Peer) (peerAddr : SocketAddr)
    (l before part rest : List (Obs × Sys E S F)) : Prop where
  split : l = before ++ part ++ rest
  starts : before = [] ∨ ∃ l' s,
    before = l' ++ [(.updated (some (.connected protocol peer peerAddr)), s)] ∧
      s.conn.networkRecoveryHandler.networkAvailable = true
  ends : rest = [] ∨ ∃ info s l', rest = (.updated info, s) :: l'
  finds : ∀ x ∈ part, findsTunnel protocol peer peerAddr x = true

section Stays

variable {protocol : VpnProtocol} {peer : Peer} {peerAddr : SocketAddr}
  {h : Hist (Sys E S F) Obs} {before part rest : List (Obs × Sys E S F)}

/-- A whole run. -/
theorem stays_whole {l : List (Obs × Sys E S F)}
    (h : ∀ x ∈ l, findsTunnel protocol peer peerAddr x = true) :
    Stays protocol peer peerAddr l [] l [] :=
  ⟨(List.append_nil l).symm, .inl rfl, .inl rfl, h⟩

/-- An `update_state` that finds the tunnel is a call that returns no event. -/
theorem replayed_found (l : List (Obs × Sys E S F)) {s : Sys E S F}
    (hnetwork : s.conn.networkRecoveryHandler.networkAvailable = true) :
    replayed (l ++ [(.updated (some (.connected protocol peer peerAddr)), s)]) =
      ((replayed l).1, (replayed l).2.onConnectedToPeer
        (getPeerConnectionInfo peer peerAddr protocol)) := by
  have hop : agentOps [((.updated (some (.connected protocol peer peerAddr)) : Obs), s)] =
      [.connectedTo (getPeerConnectionInfo peer peerAddr protocol)] := by
    simp [agentOps, agentOp, tunnelOp, hnetwork]
  rw [replayed_append, hop]
  exact Prod.ext (List.append_nil _) rfl

/-- The part begins with an empty accumulator. -/
theorem Stays.localAgentStats (hs : Stays protocol peer peerAddr h.past before part rest) :
    (replayed before).2.localAgentStats = StatsAccumulator.empty := by
  rcases hs.starts with rfl | ⟨l', s, rfl, hnetwork⟩
  · rfl
  · rw [replayed_found l' hnetwork]
    rfl

/-- At its two ends the statistics events are those of the calls so far. -/
theorem Stays.events (hs : Stays protocol peer peerAddr h.past before part rest)
    (hI : AgentInv h) :
    statsEvents before = (replayed before).1.filter Event.isLocalAgentStats ∧
      statsEvents (before ++ part) =
        (replayed (before ++ part)).1.filter Event.isLocalAgentStats := by
  constructor
  · rcases hs.starts with rfl | ⟨l', s, rfl, hnetwork⟩
    · rfl
    · have hsplit : h.past = l' ++ (.updated (some (.connected protocol peer peerAddr)), s) ::
          (part ++ rest) := by
        rw [hs.split]
        simp
      rw [replayed_found l' hnetwork, ← (hI.checked _ _ _ _ hsplit).events _ rfl,
        statsEvents_append]
      exact List.append_nil _
  · rcases hs.ends with hrest | ⟨info, s, l', hrest⟩
    · have hevents := hI.events
      rwa [hs.split, hrest, List.append_nil] at hevents
    · exact (hI.checked _ _ _ _ (hrest ▸ hs.split)).events info rfl

end Stays

/-- **When a statistics request is answered.** In local-agent mode, in every part of a run in which
the tunnel stays connected to one peer and the network available, and in which the six values of one
request are pulled, in any order and at any time: exactly one statistics event is emitted and it
carries them iff no `update_state` runs between the first and the last pull. -/
theorem localAgentStats_iff (cfg : InitialConfig) (hmode : cfg.localAgentSettings.isSome)
    (streams : S) (env : E) (n : Nat) (protocol : VpnProtocol) (peer : Peer)
    (peerAddr : SocketAddr) (v : StatKind → Option UInt64)
    (before part rest : List (Obs × Sys E S F))
    (hstays : Stays protocol peer peerAddr (exec d cfg streams env n).2.past before part rest)
    (hsix : (pulledStats part).Perm (StatKind.all.map fun k => (k, v k))) :
    statsEvents part = [statsEvent v] ↔ PulledTogether part := by
  obtain ⟨hbefore, hafter⟩ := hstays.events (agentInv_exec d cfg hmode streams env n)
  have hpart : statsEvents part = (StatsAccumulator.empty.statsRun (agentOps part)).1 := by
    rw [statsEvents_append, replayed_append, List.filter_append, hbefore, run_stats,
      hstays.localAgentStats] at hafter
    exact List.append_cancel_left hafter
  rw [hpart, pulledTogether_iff hstays.finds]
  exact statsRun_eq_singleton_iff hsix

/-! ## Messages of a peer -/

/-- A message pulled at one moment of a run and the next state computed for a connected tunnel:
`a` is what was observed before the pull, `b` between the two, and no state was computed for a
connected tunnel meanwhile. -/
structure NextState (l a b : List (Obs × Sys E S F)) (m : LocalAgentMessage)
    (peer : PeerConnectionInfo) (s s' : Sys E S F) : Prop where
  split : ∃ info c, l = a ++ (.pulledLocalAgent (some m), s) :: b ++ (.updated info, s') :: c ∧
    tunnelOp s'.conn.networkRecoveryHandler.networkAvailable info = some (.connectedTo peer)
  between : ∀ op ∈ agentOps b, op.isReset = false

/-- The two moments given by their positions. -/
theorem nextState_of_getElem? {l : List (Obs × Sys E S F)} {i j : Nat} {m : LocalAgentMessage}
    {info : Option TunnelInfo} {peer : PeerConnectionInfo} {s s' : Sys E S F}
    (hi : l[i]? = some (.pulledLocalAgent (some m), s)) (hj : l[j]? = some (.updated info, s'))
    (hij : i < j)
    (hop : tunnelOp s'.conn.networkRecoveryHandler.networkAvailable info = some (.connectedTo peer))
    (hb : (agentOps ((l.take j).drop (i + 1))).all (fun op => !op.isReset) = true) :
    NextState l (l.take i) ((l.take j).drop (i + 1)) m peer s s' where
  split := ⟨info, _, split_getElem? hi hj hij, hop⟩
  between := by simpa using hb

/-- The handler at the next state: the message, those pulled after it, and the report of the
tunnel. -/
theorem replayed_nextState {a b : List (Obs × Sys E S F)} {m : LocalAgentMessage}
    {info : Option TunnelInfo} {peer : PeerConnectionInfo} {s s' : Sys E S F}
    (hop : tunnelOp s'.conn.networkRecoveryHandler.networkAvailable info =
      some (.connectedTo peer)) :
    (replayed (a ++ (.pulledLocalAgent (some m), s) :: b ++ [(.updated info, s')])).2 =
      (((replayed a).2.run (.message m :: agentOps b)).2).onConnectedToPeer peer := by
  have hlast : agentOps [((.updated info : Obs), s')] = [.connectedTo peer] := by
    simp [agentOps, agentOp, hop]
  have hfirst : agentOps ((.pulledLocalAgent (some m), s) :: b) = .message m :: agentOps b := rfl
  rw [replayed_append, replayed_append, hlast, hfirst]
  rfl

/-- **When a message is reflected.** In every run in local-agent mode, for every message pulled and
the next state computed for a connected tunnel to `peer`: that state is the handler's, it reflects
the message and those pulled after it iff the handler remembered `peer` when the message was pulled
or the messages say nothing that could be missed, and after `LocalAgentConnected` it is not
`ConnectingToLocalAgent` without a reason iff the handler remembered `peer`. -/
theorem agent_message_reflected_iff (cfg : InitialConfig) (hmode : cfg.localAgentSettings.isSome)
    (streams : S) (env : E) (n : Nat) {a b : List (Obs × Sys E S F)} {m : LocalAgentMessage}
    {peer : PeerConnectionInfo} {s s' : Sys E S F}
    (hnext : NextState (exec d cfg streams env n).2.past a b m peer s s') :
    ∃ handler handler', s.conn.localAgentHandler = some handler ∧
      s'.conn.localAgentHandler = some handler' ∧
      s'.conn.connectionState = handler'.getState peer ∧
      (Reflects (.message m :: agentOps b) handler' ↔
        handler.Remembers peer ∨ Trivial (.message m :: agentOps b)) ∧
      (m = .localAgentConnected →
        (s'.conn.connectionState ≠ .connectingToLocalAgent peer none ↔
          handler.Remembers peer)) := by
  have hI := agentInv_exec d cfg hmode streams env n
  obtain ⟨⟨info, c, hl, hop⟩, hbetween⟩ := hnext
  have hmsgs : ∀ op ∈ AgentOp.message m :: agentOps b, op.isReset = false :=
    List.forall_mem_cons.mpr ⟨rfl, hbetween⟩
  -- the handler when the message is pulled, and after the `update_state`
  have hpull := (hI.checked a (.pulledLocalAgent (some m)) s (b ++ (.updated info, s') :: c)
    (by rw [hl]; simp)).pulled (some m) rfl
  have hupd := hI.checked (a ++ (.pulledLocalAgent (some m), s) :: b) (.updated info) s' c hl
  have hstate := hupd.state info peer rfl hop
  have hupdated := hupd.updated info rfl
  rw [replayed_nextState hop] at hstate hupdated
  refine ⟨_, _, hpull, hupdated, hstate, reflects_onConnectedToPeer_iff _ hmsgs peer, ?_⟩
  rintro rfl
  rw [hstate]
  exact LocalAgentHandler.getState_after_connected_iff _ hbetween peer

end PvpnConnection

namespace Script

open PvpnConnection

/-! ## Statistics values that are pulled apart -/

/-- The message that carries a statistics value. -/
def stat (kind : StatKind) (val : Option UInt64) : LocalAgentMessage :=
  .value <|
    match kind with
    | .bytesReceived => .statsBytesReceived val
    | .bytesSent => .statsBytesSent val
    | .maliciousBlocked => .statsNetshieldBlockCountMalicious val
    | .adsBlocked => .statsNetshieldBlockCountAds val
    | .trackersBlocked => .statsNetshieldBlockCountTracking val
    | .adultContentBlocked => .statsNetshieldBlockCountAdult val

/-- The tunnel stays connected for two rounds; the values of `first` are pulled in the first round
and those of `second` in the second. -/
def statsReplies (first second : List StatKind) : Script where
  messages := [none, none, some .disconnect]
  tunnels := [tunnel "P", tunnel "P"]
  agent := first.map (fun k => some (stat k (some 1))) ++ none ::
    second.map (fun k => some (stat k (some 1)))

/-- All six values in the first round. -/
def statsTogether : Script := statsReplies StatKind.all []

/-- One value in the first round and five in the second. -/
def statsSplit : Script := statsReplies (StatKind.all.take 1) (StatKind.all.drop 1)

/-- With all values in one round the event is emitted, and they are pulled together. -/
theorem stats_together_emitted :
    statsEvents (log agentConfig statsTogether 7) = [statsEvent fun _ => some 1] ∧
      PulledTogether (log agentConfig statsTogether 7) := by
  have hev : statsEvents (log agentConfig statsTogether 7) =
      [statsEvent fun _ => some 1] := by decide +kernel
  have hstays : ((log agentConfig statsTogether 7).all
      (findsTunnel .wireguardUdp (peer "P") ⟨.v4 0x01020304, 51820⟩)) = true := by decide +kernel
  have hsix : pulledStats (log agentConfig statsTogether 7) =
      StatKind.all.map fun k => (k, some 1) := by decide +kernel
  exact ⟨hev, (localAgentStats_iff scripted agentConfig (by decide) () statsTogether 7 .wireguardUdp
    (peer "P") ⟨.v4 0x01020304, 51820⟩ (fun _ => some 1) [] _ []
    (stays_whole (List.all_eq_true.mp hstays)) (List.Perm.of_eq hsix)).mp hev⟩

/-- With an `update_state` after the first value no event is emitted at all, although the tunnel
stays, the network is there and all six values are pulled. -/
theorem stats_split_lost :
    (∀ x ∈ log agentConfig statsSplit 7,
      findsTunnel .wireguardUdp (peer "P") ⟨.v4 0x01020304, 51820⟩ x = true) ∧
    pulledStats (log agentConfig statsSplit 7) = (StatKind.all.map fun k => (k, some 1)) ∧
    (PvpnConnection.exec scripted agentConfig () statsSplit 7).1 = some () ∧
    statsEvents (log agentConfig statsSplit 7) = [] := by
  have hstays : ((log agentConfig statsSplit 7).all
      (findsTunnel .wireguardUdp (peer "P") ⟨.v4 0x01020304, 51820⟩)) = true := by decide +kernel
  exact ⟨List.all_eq_true.mp hstays, by decide +kernel, by decide +kernel, by decide +kernel⟩

/-! ## A message pulled before the handler knows of the peer -/

/-- The tunnel is connected to `P` in the first round. Then data arrives, and with it the local
agent reports that it is connected; by now the client's tunnel is connected to `tag`. -/
def agentReply (tag : String) : Script where
  messages := [none, none, some .disconnect]
  tunnels := [tunnel "P", tunnel tag]
  agent := [none, some .localAgentConnected, none]
  polls := [[{ streamId := 5, isReadable := true, isWritable := false, isError := false }], []]
  reads := [(.okAt0 1 .yes .no, [7])]

/-- What the user is shown for the peer with the given tag. -/
def peerInfo (tag : String) : PeerConnectionInfo where
  peerId := tag
  entryIp := .v4 0x01020304
  protocol := .wireguardUdp
  port := 51820

/-- What is checked of the two runs below: the message is the observation at 22, the client's tunnel
is connected to `tag` by then, and the next state is computed at 28. -/
def replyCheck (tag : String) (l : List (Obs × Sys Script Unit Unit)) : Bool :=
  match l[22]?, l[28]? with
  | some (Obs.pulledLocalAgent (some .localAgentConnected), s), some (Obs.updated info, s') =>
    (scripted.client.getTunnelInfo s.env).1 = tunnel tag &&
    tunnelOp s'.conn.networkRecoveryHandler.networkAvailable info =
      some (.connectedTo (peerInfo tag)) &&
    (agentOps ((l.take 28).drop 23)).all (!·.isReset)
  | _, _ => false

theorem replyCheck_spec (tag : String) {l : List (Obs × Sys Script Unit Unit)}
    (h : replyCheck tag l = true) :
    ∃ s s', l[28]?.map Prod.snd = some s' ∧ (scripted.client.getTunnelInfo s.env).1 = tunnel tag ∧
      NextState l (l.take 22) ((l.take 28).drop 23) .localAgentConnected (peerInfo tag) s s' := by
  unfold replyCheck at h
  split at h
  · rename_i s info s' hi hj
    simp only [Bool.and_eq_true, decide_eq_true_eq] at h
    exact ⟨s, s', by rw [hj]; rfl, h.1.1, nextState_of_getElem? hi hj (by decide) h.1.2 h.2⟩
  · cases h

/-- The tunnel stays on `P`: the next state reflects the message, since the handler remembers `P`
when it is pulled. -/
theorem agent_connected_kept :
    ∃ s s' handler, NextState (log agentConfig (agentReply "P") 3)
        ((log agentConfig (agentReply "P") 3).take 22)
        (((log agentConfig (agentReply "P") 3).take 28).drop 23)
        .localAgentConnected (peerInfo "P") s s' ∧
      s.conn.localAgentHandler = some handler ∧ handler.Remembers (peerInfo "P") ∧
      s'.conn.connectionState ≠ .connectingToLocalAgent (peerInfo "P") none := by
  obtain ⟨s, s', hs', -, hnext⟩ := replyCheck_spec "P"
    (l := log agentConfig (agentReply "P") 3) (by decide +kernel)
  have hstate : (log agentConfig (agentReply "P") 3)[28]?.map
      (fun x => decide (x.2.conn.connectionState = .connectingToLocalAgent (peerInfo "P") none)) =
      some false := by decide +kernel
  obtain ⟨handler, handler', hh, -, -, -, hconn⟩ :=
    agent_message_reflected_iff scripted agentConfig (by decide) () (agentReply "P") 3 hnext
  obtain ⟨x, hx, rfl⟩ := Option.map_eq_some_iff.mp hs'
  rw [hx] at hstate
  have hne := of_decide_eq_false (Option.some.inj hstate)
  exact ⟨s, x.2, handler, hnext, hh, (hconn rfl).mp hne, hne⟩

/-- The tunnel has moved to `Q` before the message is pulled: the next state for `Q` is
`ConnectingToLocalAgent` without a reason. -/
theorem agent_connected_lost :
    ∃ s s', NextState (log agentConfig (agentReply "Q") 3)
        ((log agentConfig (agentReply "Q") 3).take 22)
        (((log agentConfig (agentReply "Q") 3).take 28).drop 23)
        .localAgentConnected (peerInfo "Q") s s' ∧
      (scripted.client.getTunnelInfo s.env).1 = tunnel "Q" ∧
      s'.conn.connectionState = .connectingToLocalAgent (peerInfo "Q") none := by
  obtain ⟨s, s', hs', htunnel, hnext⟩ := replyCheck_spec "Q"
    (l := log agentConfig (agentReply "Q") 3) (by decide +kernel)
  have hstate : (log agentConfig (agentReply "Q") 3)[28]?.map (·.2.conn.connectionState) =
      some (.connectingToLocalAgent (peerInfo "Q") none) := by decide +kernel
  obtain ⟨x, hx, rfl⟩ := Option.map_eq_some_iff.mp hs'
  rw [hx] at hstate
  exact ⟨s, x.2, hnext, htunnel, Option.some.inj hstate⟩

end Script

end Protun
