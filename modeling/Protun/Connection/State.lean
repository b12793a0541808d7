import Protun.Connection.Invariant

/-!
# The states delivered to the user

States are delivered from four places: the constructor, a connectivity message, `update_state` and
the end of the loop. All go through `set_state`, which compares with the current connection state
and nothing else. `StateInv` is what the four keep between them:

* the state delivered last has the current connection state (`current`);
* the handler is there exactly in local-agent mode (`mode`);
* every delivery was right when it was made (`deliveries`): it shows what the network flag and the
  tunnel information just read say (`Shown`) and differs from the one before.

Results: `delivered_states` for whole runs, and for the interface half of a `VpnState`
`updateState_upToDate_iff`: after `update_state` the state delivered last is the current one iff
the connection state has just changed or the interface is as it was delivered.
-/

namespace Protun

open Trace

/-! ## What a delivered state may show -/

/-- The state a delivery carries. -/
def Obs.delivered : Obs → Option VpnState
  | .stateChanged state => some state
  | _ => none

/-- The answer of `get_tunnel_info`. -/
def Obs.tunnelRead : Obs → Option (Option TunnelInfo)
  | .tunnelInfo info => some info
  | _ => none

/-- The tunnel information that an `update_state` has used. -/
def Obs.updateRead : Obs → Option (Option TunnelInfo)
  | .updated info => some info
  | _ => none

/-- The peer of a state that reports a tunnel. -/
def ConnectionState.tunnelPeer : ConnectionState → Option PeerConnectionInfo
  | .connectingToLocalAgent peer _ => some peer
  | .connected peer _ => some peer
  | _ => none

/-- `peer` names the tunnel's peer, address, port and protocol. -/
structure PeerConnectionInfo.Names (info : PeerConnectionInfo) (protocol : VpnProtocol)
    (peer : Peer) (peerAddr : SocketAddr) : Prop where
  peerId : info.peerId = peer.tag.getD peerAddr.ip.toText
  entryIp : info.entryIp = peerAddr.ip
  port : info.port = peerAddr.port
  protocol : info.protocol = protocol.toProtocol

/-- What a state delivered in local-agent mode (`localAgent`) or without may show, given the
network flag, whether the loop has ended and the tunnel information read last. -/
structure Shown (localAgent networkAvailable : Bool) (ended : Prop)
    (lastInfo : Option (Option TunnelInfo)) (state : ConnectionState) : Prop where
  offline : networkAvailable = false →
    (∃ peers, state = .connecting peers [.waitingForNetwork]) ∨
      ended ∧ state = .disconnected none
  online : networkAvailable = true →
    ∀ peers waitReasons, state = .connecting peers waitReasons → .waitingForNetwork ∉ waitReasons
  tunnel : ∀ info, state.tunnelPeer = some info → ∃ protocol peer peerAddr,
    lastInfo = some (some (.connected protocol peer peerAddr)) ∧ info.Names protocol peer peerAddr
  agentInfo : ∀ peer info, state = .connected peer info → info.isSome = localAgent
  agentMode : ∀ peer waitReason, state = .connectingToLocalAgent peer waitReason →
    localAgent = true

/-- A state that reports no tunnel says nothing about peers and modes. -/
theorem shown_of_noTunnel {localAgent networkAvailable : Bool} {ended : Prop}
    {lastInfo : Option (Option TunnelInfo)} {state : ConnectionState}
    (hoff : networkAvailable = false →
      (∃ peers, state = .connecting peers [.waitingForNetwork]) ∨
        ended ∧ state = .disconnected none)
    (hon : networkAvailable = true → ∀ peers waitReasons,
      state = .connecting peers waitReasons → .waitingForNetwork ∉ waitReasons)
    (ht : state.tunnelPeer = none) :
    Shown localAgent networkAvailable ended lastInfo state where
  offline := hoff
  online := hon
  tunnel info h := by rw [ht] at h; cases h
  agentInfo peer info h := by rw [h] at ht; cases ht
  agentMode peer waitReason h := by rw [h] at ht; cases ht

theorem shown_networkUnavailableState (localAgent : Bool) (ended : Prop)
    (lastInfo : Option (Option TunnelInfo)) (info : Option TunnelInfo) :
    Shown localAgent false ended lastInfo (networkUnavailableState info) :=
  shown_of_noTunnel (fun _ => .inl ⟨_, rfl⟩) (fun h => by cases h) rfl

theorem shown_disconnected (localAgent networkAvailable : Bool) {ended : Prop} (he : ended)
    (lastInfo : Option (Option TunnelInfo)) :
    Shown localAgent networkAvailable ended lastInfo (.disconnected none) :=
  shown_of_noTunnel (fun _ => .inr ⟨he, rfl⟩) (fun _ _ _ h => by cases h) rfl

/-- A state for a connected tunnel, with the network available. -/
theorem shown_of_tunnel {localAgent : Bool} {ended : Prop} {state : ConnectionState}
    {info : PeerConnectionInfo} {protocol : VpnProtocol} {peer : Peer} {peerAddr : SocketAddr}
    (ht : state.tunnelPeer = some info) (hnames : info.Names protocol peer peerAddr)
    (hagent : ∀ p i, state = .connected p i → i.isSome = localAgent)
    (hmode : ∀ p w, state = .connectingToLocalAgent p w → localAgent = true) :
    Shown localAgent true ended (some (some (.connected protocol peer peerAddr))) state where
  offline h := by cases h
  online _ peers waitReasons h := by rw [h] at ht; cases ht
  tunnel info' h := by
    rw [ht] at h
    cases h
    exact ⟨protocol, peer, peerAddr, rfl, hnames⟩
  agentInfo := hagent
  agentMode := hmode

namespace PvpnConnection

open Conn

variable {E S X F α : Type}

theorem names_getPeerConnectionInfo (peer : Peer) (peerAddr : SocketAddr)
    (protocol : VpnProtocol) :
    (getPeerConnectionInfo peer peerAddr protocol).Names protocol peer peerAddr :=
  ⟨rfl, rfl, rfl, rfl⟩

/-- The handler reports the peer it is asked about, and its information once it is connected. -/
theorem getState_cases (handler : LocalAgentHandler) (peer : PeerConnectionInfo) :
    (∃ waitReason, handler.getState peer = .connectingToLocalAgent peer waitReason) ∨
      handler.getState peer = .connected peer (some handler.agentInfo) := by
  unfold LocalAgentHandler.getState
  cases handler.getWaitReason with
  | some waitReason => exact .inl ⟨_, rfl⟩
  | none =>
    cases handler.isConnected with
    | true => exact .inr rfl
    | false => exact .inl ⟨_, rfl⟩

theorem shown_getState (handler : LocalAgentHandler) (protocol : VpnProtocol) (peer : Peer)
    (peerAddr : SocketAddr) (ended : Prop) :
    Shown true true ended (some (some (.connected protocol peer peerAddr)))
      (handler.getState (getPeerConnectionInfo peer peerAddr protocol)) := by
  have hnames := names_getPeerConnectionInfo peer peerAddr protocol
  obtain ⟨waitReason, h⟩ | h :=
    getState_cases handler (getPeerConnectionInfo peer peerAddr protocol) <;> rw [h]
  · exact shown_of_tunnel rfl hnames (fun _ _ h => by cases h) fun _ _ _ => rfl
  · exact shown_of_tunnel rfl hnames (fun _ _ h => by cases h; rfl) fun _ _ h => by cases h

/-- **`get_peer_connection_state` shows what the tunnel information says.** -/
theorem shown_getPeerConnectionState (c : PvpnConnection S F) (info : Option TunnelInfo)
    (ended : Prop) :
    Shown c.localAgentHandler.isSome c.networkRecoveryHandler.networkAvailable ended (some info)
      (c.getPeerConnectionState info).1 := by
  unfold getPeerConnectionState
  cases c.networkRecoveryHandler.networkAvailable with
  | false => exact shown_networkUnavailableState _ _ _ _
  | true =>
    simp only [not_true_eq_false, ↓reduceIte]
    match info with
    | none => exact shown_of_noTunnel (fun h => by cases h) (fun _ _ _ h => by cases h) rfl
    | some (.connected protocol peer peerAddr) =>
      cases c.localAgentHandler with
      | some handler => exact shown_getState _ protocol peer peerAddr ended
      | none =>
        exact shown_of_tunnel rfl (names_getPeerConnectionInfo peer peerAddr protocol)
          (fun _ _ h => by cases h; rfl) fun _ _ h => by cases h
    | some (.connecting protocol peer peerAddr) =>
      exact shown_of_noTunnel (fun h => by cases h) (fun _ _ _ h => by cases h; simp) rfl
    | some .disconnected =>
      dsimp only
      split
      · exact shown_of_noTunnel (fun h => by cases h) (fun _ _ _ h => by cases h; simp) rfl
      · exact shown_of_noTunnel (fun h => by cases h) (fun _ _ _ h => by cases h) rfl

/-- The handler after `get_peer_connection_state`: a connected tunnel is reported to it. -/
def handlerAfter (info : Option TunnelInfo) (c : PvpnConnection S F) : Option LocalAgentHandler :=
  match c.networkRecoveryHandler.networkAvailable, info with
  | true, some (.connected protocol peer peerAddr) =>
    c.localAgentHandler.map (·.onConnectedToPeer (getPeerConnectionInfo peer peerAddr protocol))
  | _, _ => c.localAgentHandler

theorem getPeerConnectionState_snd (info : Option TunnelInfo) (c : PvpnConnection S F) :
    (c.getPeerConnectionState info).2 = { c with localAgentHandler := handlerAfter info c } := by
  unfold getPeerConnectionState handlerAfter
  cases c.networkRecoveryHandler.networkAvailable with
  | false => rfl
  | true =>
    simp only [not_true_eq_false, ↓reduceIte]
    match info with
    | none => rfl
    | some (.connected protocol peer peerAddr) =>
      cases hh : c.localAgentHandler with
      | some handler => rfl
      | none =>
        cases c
        cases hh
        rfl
    | some (.connecting protocol peer peerAddr) => rfl
    | some .disconnected =>
      dsimp only
      split <;> rfl

@[simp] theorem handlerAfter_isSome (info : Option TunnelInfo) (c : PvpnConnection S F) :
    (handlerAfter info c).isSome = c.localAgentHandler.isSome := by
  unfold handlerAfter
  split <;> simp

/-- No state carries a reason for being disconnected. -/
def NoReason (state : ConnectionState) : Prop := ∀ e, state = .disconnected e → e = none

theorem noReason_getPeerConnectionState (c : PvpnConnection S F) (info : Option TunnelInfo) :
    NoReason (c.getPeerConnectionState info).1 := by
  unfold getPeerConnectionState
  cases c.networkRecoveryHandler.networkAvailable with
  | false => exact fun e h => by cases h
  | true =>
    simp only [not_true_eq_false, ↓reduceIte]
    match info with
    | none => exact fun e h => by cases h; rfl
    | some (.connected protocol peer peerAddr) =>
      cases c.localAgentHandler with
      | some handler =>
        intro e h
        obtain ⟨waitReason, hg⟩ | hg := getState_cases
          (handler.onConnectedToPeer (getPeerConnectionInfo peer peerAddr protocol))
          (getPeerConnectionInfo peer peerAddr protocol)
        · exact absurd (hg.symm.trans h) (by simp)
        · exact absurd (hg.symm.trans h) (by simp)
      | none => exact fun e h => by cases h
    | some (.connecting protocol peer peerAddr) => exact fun e h => by cases h
    | some .disconnected =>
      dsimp only
      split
      · exact fun e h => by cases h
      · exact fun e h => by cases h; rfl

/-! ## `set_state` and `update_state` -/

section Apply

variable (d : PvpnDependencies E S X F)

/-- What `set_state` hands to the callback for `state`. -/
def vpnState (c : PvpnConnection S F) (state : ConnectionState) : VpnState where
  interfaceState := d.streams.getTunInterfaceState c.streams c.currentTunError
  connectionState := state

/-- A delivery: the field is set, then the callback runs. -/
def deliver (state : ConnectionState) (h : Hist (Sys E S F) Obs) : Hist (Sys E S F) Obs :=
  let v := vpnState d h.now.conn state
  let h := (h.set { h.now with conn := { h.now.conn with connectionState := state } }).emit
    (.stateChanged v)
  h.set { h.now with env := d.onStateChanged v h.now.env }

theorem deliver_conn (state : ConnectionState) (h : Hist (Sys E S F) Obs) :
    (deliver d state h).now.conn = { h.now.conn with connectionState := state } := rfl

theorem deliver_past (state : ConnectionState) (h : Hist (Sys E S F) Obs) :
    (deliver d state h).past = h.past ++ [(.stateChanged (vpnState d h.now.conn state),
      { h.now with conn := { h.now.conn with connectionState := state } })] := rfl

theorem setState_eq (state : ConnectionState) (h : Hist (Sys E S F) Obs) :
    setState d state h =
      (some (), if state = h.now.conn.connectionState then h else deliver d state h) := by
  unfold setState Prog.when
  by_cases hs : state = h.now.conn.connectionState <;> simp [Prog.bind_apply, conn, hs]
  rfl

theorem setState_conn (state : ConnectionState) (h : Hist (Sys E S F) Obs) :
    (setState d state h).2.now.conn = { h.now.conn with connectionState := state } := by
  rw [setState_eq]
  split
  · rename_i hs
    rw [hs]
  · rfl

/-- `update_state` up to the call of `set_state`. -/
def observeTunnel (h : Hist (Sys E S F) Obs) : Hist (Sys E S F) Obs :=
  let r := d.client.getTunnelInfo h.now.env
  let h := (h.set { h.now with env := r.2 }).emit (.tunnelInfo r.1)
  h.set { h.now with conn := (h.now.conn.getPeerConnectionState r.1).2 }

/-- The tunnel information `update_state` reads. -/
def tunnelNow (h : Hist (Sys E S F) Obs) : Option TunnelInfo :=
  (d.client.getTunnelInfo h.now.env).1

theorem observeTunnel_conn (h : Hist (Sys E S F) Obs) :
    (observeTunnel d h).now.conn =
      { h.now.conn with localAgentHandler := handlerAfter (tunnelNow d h) h.now.conn } :=
  getPeerConnectionState_snd _ _

theorem observeTunnel_past (h : Hist (Sys E S F) Obs) :
    (observeTunnel d h).past = h.past ++ [(.tunnelInfo (tunnelNow d h),
      { h.now with env := (d.client.getTunnelInfo h.now.env).2 })] := rfl

/-- The state `update_state` computes. -/
def computedState (h : Hist (Sys E S F) Obs) : ConnectionState :=
  (h.now.conn.getPeerConnectionState (tunnelNow d h)).1

/-- `update_state` after the call of `set_state`. -/
def closeUpdate (info : Option TunnelInfo) (h : Hist (Sys E S F) Obs) : Hist (Sys E S F) Obs :=
  (h.set { h.now with conn := noteConnected h.now.conn }).emit (.updated info)

theorem closeUpdate_past (info : Option TunnelInfo) (h : Hist (Sys E S F) Obs) :
    (closeUpdate info h).past =
      h.past ++ [(.updated info, { h.now with conn := noteConnected h.now.conn })] := rfl

theorem updateState_eq (h : Hist (Sys E S F) Obs) :
    updateState d h = (some (), closeUpdate (tunnelNow d h)
      (setState d (computedState d h) (observeTunnel d h)).2) := by
  unfold updateState ask
  simp only [Prog.bind_apply, query, Prog.emit_apply, Prog.pure_apply, conn, update,
    Prog.modify_apply]
  have hs := setState_eq d (computedState d h) (observeTunnel d h)
  rw [hs]
  have hs' := hs
  unfold computedState observeTunnel tunnelNow at hs'
  simp only [Hist.emit_now, Hist.set_now] at hs' ⊢
  rw [hs']
  rfl

section Step

variable {K : PvpnConnection S F → PvpnConnection S F → Prop} {Q : Obs → Bool}
  [IsPreorder (PvpnConnection S F) K] (h : Hist (Sys E S F) Obs)

theorem step_observeTunnel
    (hK : ∀ c handler, handler.isSome = c.localAgentHandler.isSome →
      K c { c with localAgentHandler := handler })
    (hQ : ∀ info, Q (.tunnelInfo info) = true) : Step K Q h (observeTunnel d h) := by
  refine trans_of (Step K Q) (step_ask hQ d.client.getTunnelInfo h) (step_set ?_)
  dsimp only
  rw [getPeerConnectionState_snd]
  exact hK _ _ (handlerAfter_isSome _ _)

theorem step_closeUpdate
    (hK : ∀ c r, r.networkAvailable = c.networkRecoveryHandler.networkAvailable →
      K c { c with networkRecoveryHandler := r })
    (hQ : ∀ info, Q (.updated info) = true) (info : Option TunnelInfo) :
    Step K Q h (closeUpdate info h) := by
  refine trans_of (Step K Q) (step_set ?_) (step_emit (hQ info) (h.set _))
  dsimp only
  unfold noteConnected
  split
  · exact hK _ _ rfl
  · exact refl_of K _

omit h in
theorem step_updateState
    (hhandler : ∀ c handler, handler.isSome = c.localAgentHandler.isSome →
      K c { c with localAgentHandler := handler })
    (hstate : ∀ c s, K c { c with connectionState := s })
    (hnetwork : ∀ c r, r.networkAvailable = c.networkRecoveryHandler.networkAvailable →
      K c { c with networkRecoveryHandler := r })
    (hinfo : ∀ info, Q (.tunnelInfo info) = true) (hchanged : ∀ v, Q (.stateChanged v) = true)
    (hupdated : ∀ info, Q (.updated info) = true) : Prog.Rel (Step K Q) (updateState d) := by
  intro h
  rw [updateState_eq]
  refine trans_of (Step K Q) (step_observeTunnel d h hhandler hinfo) ?_
  refine trans_of (Step K Q) (step_setState d hstate hchanged (computedState d h) _) ?_
  exact step_closeUpdate _ hnetwork hupdated _

end Step

end Apply

/-! ## The invariant -/

/-- A delivery was right when it was made: it shows what the network flag and the tunnel
information read last say, and it differs from the delivery before it. -/
def Delivery (localAgent : Bool) (pre : List (Obs × Sys E S F)) (o : Obs) (s : Sys E S F) : Prop :=
  ∀ state, o = .stateChanged state →
    Shown localAgent s.conn.networkRecoveryHandler.networkAvailable
      (Obs.loopEnd ∈ pre.map Prod.fst) (lastOf Obs.tunnelRead pre) state.connectionState ∧
    ∀ prev, lastOf Obs.delivered pre = some prev → prev.connectionState ≠ state.connectionState

/-- What every step of the connection keeps about the states it delivers. -/
structure StateInv (localAgent : Bool) (h : Hist (Sys E S F) Obs) : Prop where
  mode : h.now.conn.localAgentHandler.isSome = localAgent
  current : h.now.conn.connectionState =
    ((lastOf Obs.delivered h.past).map (·.connectionState)).getD (.disconnected none)
  noReason : NoReason h.now.conn.connectionState
  deliveries : Always (Delivery localAgent) h.past

/-- The fields the invariant reads. -/
structure SameState (c c' : PvpnConnection S F) : Prop where
  connectionState : c'.connectionState = c.connectionState
  mode : c'.localAgentHandler.isSome = c.localAgentHandler.isSome

instance isPreorder_sameState : IsPreorder (PvpnConnection S F) SameState where
  refl _ := ⟨rfl, rfl⟩
  trans _ _ _ h₁ h₂ := ⟨h₂.connectionState.trans h₁.connectionState, h₂.mode.trans h₁.mode⟩

/-- Work that delivers no state. -/
abbrev Silent (h h' : Hist (Sys E S F) Obs) : Prop := Step SameState (·.delivered.isNone) h h'

theorem Step.silent {h h' : Hist (Sys E S F) Obs} (hb : Background h h') : Silent h h' :=
  hb.mono (fun _ _ hc => ⟨hc.connectionState, hc.mode⟩)
    fun o ho => by cases o <;> first | rfl | cases ho

theorem silent_of_aside {x : Conn E S F α} (hx : Prog.Rel Aside x) : Prog.Rel Silent x :=
  fun h => (hx h).mono (fun _ _ hc => ⟨hc.core.connectionState, hc.core.sameMode.mode⟩)
    fun o ho => by cases o <;> first | rfl | cases ho

theorem StateInv.silent {localAgent : Bool} {h h' : Hist (Sys E S F) Obs} (hs : Silent h h')
    (hI : StateInv localAgent h) : StateInv localAgent h' where
  mode := hs.core.mode.trans hI.mode
  current := by
    have hlast : lastOf Obs.delivered h'.past = lastOf Obs.delivered h.past :=
      hs.observed.lastOf fun o _ ho => Option.isNone_iff_eq_none.mp ho
    rw [hs.core.connectionState, hI.current, hlast]
  noReason := by
    rw [hs.core.connectionState]
    exact hI.noReason
  deliveries := hs.observed.always
    (fun _ o _ _ ho state h => by subst h; exact absurd ho (by simp [Obs.delivered])) hI.deliveries

variable (d : PvpnDependencies E S X F) {localAgent : Bool}

theorem inv_of_silent {x : Conn E S F α} (hx : Prog.Rel Silent x) :
    Prog.Inv (StateInv localAgent) x :=
  hx.inv fun _ _ => StateInv.silent

/-- `set_state` keeps the invariant if what it is given may be shown. -/
theorem StateInv.setState {h : Hist (Sys E S F) Obs} (hI : StateInv localAgent h)
    {state : ConnectionState}
    (hshown : Shown localAgent h.now.conn.networkRecoveryHandler.networkAvailable
      (Obs.loopEnd ∈ h.past.map Prod.fst) (lastOf Obs.tunnelRead h.past) state)
    (hreason : NoReason state) : StateInv localAgent (setState d state h).2 := by
  rw [setState_eq]
  by_cases hs : state = h.now.conn.connectionState
  · rwa [if_pos hs]
  · rw [if_neg hs]
    refine ⟨hI.mode, ?_, hreason, ?_⟩
    · rw [deliver_conn, deliver_past, lastOf_snoc]
      rfl
    · rw [deliver_past]
      refine always_snoc.mpr ⟨hI.deliveries, ?_⟩
      rintro _ ⟨⟩
      refine ⟨hshown, fun prev hprev heq => hs ?_⟩
      -- the delivery before this one had the current connection state
      rw [hI.current, hprev]
      exact heq.symm

/-! ## The four places -/

theorem inv_updateState : Prog.Inv (StateInv localAgent) (updateState d) := by
  intro h hI
  rw [updateState_eq]
  have hobs : StateInv localAgent (observeTunnel d h) :=
    hI.silent (step_observeTunnel d h (fun _ _ hm => ⟨rfl, hm⟩) fun _ => rfl)
  have hset : StateInv localAgent (setState d (computedState d h) (observeTunnel d h)).2 := by
    refine hobs.setState d ?_ (noReason_getPeerConnectionState _ _)
    rw [observeTunnel_conn, observeTunnel_past, lastOf_snoc, ← hI.mode]
    exact shown_getPeerConnectionState h.now.conn (tunnelNow d h) _
  exact hset.silent (step_closeUpdate _ (fun _ _ _ => ⟨rfl, rfl⟩) (fun _ => rfl) _)

theorem inv_onConnectivityChange (event : ConnectivityEvent) (info : Option TunnelInfo) :
    Prog.Inv (StateInv localAgent) (onConnectivityChange d event info) := by
  intro h hI
  unfold onConnectivityChange
  simp only [Prog.bind_apply, update, Prog.modify_apply, conn, Hist.set_now]
  have hflag : Silent h (h.set { h.now with conn := { h.now.conn with
      networkRecoveryHandler := h.now.conn.networkRecoveryHandler.onConnectivityChange event } }) :=
    ⟨⟨rfl, rfl⟩, extends_set h _⟩
  split
  · exact inv_of_silent (step_inform rfl _) _ (hI.silent hflag)
  · rename_i hnet
    simp only [inform, Prog.bind_apply, Prog.emit_apply, Prog.modify_apply]
    have hdown := (hI.silent hflag).silent
      (step_inform (o := .notifyNetworkDown) rfl d.client.notifyNetworkDown _)
    refine hdown.setState d ?_ fun e h => by cases h
    -- the flag has just been cleared
    have hfalse : (h.now.conn.networkRecoveryHandler.onConnectivityChange event).networkAvailable =
        false := by simpa using hnet
    simp only [inform, Prog.bind_apply, Prog.emit_apply, Prog.modify_apply, Hist.set_now,
      Hist.emit_now, hfalse]
    exact shown_networkUnavailableState _ _ _ _

theorem silent_handleUpdate (u : ConfigUpdate) : Prog.Rel Silent (handleUpdate d u) := by
  refine step_handleUpdate d (fun _ _ => ⟨rfl, rfl⟩) (fun _ _ => ⟨rfl, rfl⟩) (fun _ => rfl)
    (fun _ => rfl) (fun _ => rfl) (fun tun => ?_) u
  exact step_updateTun d (fun _ _ => ⟨rfl, rfl⟩) (fun _ _ => ⟨rfl, rfl⟩) (fun _ _ => rfl) tun

theorem inv_handleMessage (m : PvpnMessage) :
    Prog.Inv (StateInv localAgent) (handleMessage d m) := by
  cases hm : m.isAside with
  | true => exact inv_of_silent (silent_of_aside (aside_handleMessage d hm))
  | false =>
    cases m with
    | disconnect => exact inv_of_silent (step_update fun _ => ⟨rfl, rfl⟩)
    | connectivityChange event =>
      exact Prog.inv_bind (inv_of_silent (step_ask (fun _ => rfl) _)) fun info =>
        inv_onConnectivityChange d event info
    | update u => exact inv_of_silent (silent_handleUpdate d u)
    | _ => cases hm

theorem inv_receiveMessage : Prog.Inv (StateInv localAgent) (receiveMessage d) := by
  refine Prog.inv_bind (inv_of_silent (step_ask (fun _ => rfl) _)) fun m => ?_
  cases m with
  | none => exact Prog.inv_pure _
  | some m => exact Prog.inv_bind (inv_handleMessage d m) fun _ => Prog.inv_pure _

/-- After `on_connection_loop_end` the state is `Disconnected`. -/
theorem inv_onConnectionLoopEnd {h : Hist (Sys E S F) Obs} (hI : StateInv localAgent h) :
    StateInv localAgent (onConnectionLoopEnd d h).2 ∧
      ((onConnectionLoopEnd d h).1 = some () →
        (onConnectionLoopEnd d h).2.now.conn.connectionState = .disconnected none) := by
  unfold onConnectionLoopEnd
  simp only [Prog.bind_apply, Prog.emit_apply, conn]
  have hemit : StateInv localAgent (h.emit .loopEnd) := inv_of_silent (step_emit rfl) h hI
  have hcap : Prog.Rel Aside (Prog.when (h.emit .loopEnd).now.conn.pcapStream.isSome
      (stopPacketCapture d .disconnected)) := Prog.rel_when fun _ => aside_stopPacketCapture d _
  have hinv := inv_of_silent (silent_of_aside hcap) _ hemit
  have hframe := hcap (h.emit .loopEnd)
  cases hr : Prog.when (h.emit .loopEnd).now.conn.pcapStream.isSome
      (stopPacketCapture d .disconnected) (h.emit .loopEnd) with
  | mk r h' =>
    rw [hr] at hinv hframe
    cases r with
    | none => exact ⟨hinv, fun h => by cases h⟩
    | some u =>
      have hended : Obs.loopEnd ∈ h'.past.map Prod.fst := by
        obtain ⟨seg, hseg, -⟩ := hframe.observed
        rw [show h'.past = _ from hseg]
        simp
      have hset : StateInv localAgent (setState d (.disconnected none) h').2 :=
        hinv.setState d (shown_disconnected _ _ hended _) fun e h => by cases h; rfl
      have hstate : (setState d (.disconnected none) h').2.now.conn.connectionState =
          .disconnected none := by rw [setState_conn]
      dsimp only
      cases hc : h'.now.conn.connectionState with
      | disconnected e => exact ⟨hinv, fun _ => hc.trans (congrArg _ (hinv.noReason e hc))⟩
      | connecting _ _ | connectingToLocalAgent _ _ | connected _ _ =>
        exact ⟨hset, fun _ => hstate⟩

theorem kept_stateInv : Kept d (StateInv localAgent) :=
  .of_background (fun _ _ hb => StateInv.silent hb.silent) (inv_receiveMessage d)
    (inv_updateState d) fun _ hI => (inv_onConnectionLoopEnd d hI).1

theorem inv_announceNetwork : Prog.Inv (StateInv localAgent) (announceNetwork d) := by
  intro h hI
  unfold announceNetwork Prog.when
  simp only [Prog.bind_apply, conn]
  split
  · rename_i hnet
    simp only [inform, Prog.bind_apply, Prog.emit_apply, Prog.modify_apply]
    have hdown := hI.silent
      (step_inform (o := .notifyNetworkDown) rfl d.client.notifyNetworkDown h)
    refine hdown.setState d ?_ fun e h => by cases h
    have hfalse : h.now.conn.networkRecoveryHandler.networkAvailable = false := by simpa using hnet
    simp only [inform, Prog.bind_apply, Prog.emit_apply, Prog.modify_apply, Hist.set_now,
      Hist.emit_now, hfalse]
    exact shown_networkUnavailableState _ _ _ none
  · exact hI

theorem inv_new (cfg : InitialConfig) : Prog.Inv (StateInv localAgent) (new d cfg) := by
  refine Prog.inv_bind (inv_of_silent step_conn) fun c => ?_
  refine Prog.inv_bind (inv_of_silent (Prog.rel_forEach (fun p => step_inform rfl _) _)) fun _ => ?_
  refine Prog.inv_bind (inv_announceNetwork d) fun _ => ?_
  refine Prog.inv_bind (inv_of_silent (step_ifSome fun file => ?_)) fun _ => ?_
  · exact silent_of_aside (aside_startPacketCapture d file)
  · refine inv_of_silent (step_ifSome fun settings => ?_)
    exact Prog.rel_bind (Prog.rel_forEach (fun _ => step_inform rfl _) _) fun _ => step_inform rfl _

theorem stateInv_initial (cfg : InitialConfig) (streams : S) (env : E) :
    StateInv cfg.localAgentSettings.isSome
      (Hist.init ⟨env, initial d cfg streams⟩ : Hist (Sys E S F) Obs) where
  mode := by
    simp only [initial, Hist.init_now]
    cases cfg.localAgentSettings <;> rfl
  current := rfl
  noReason := fun e h => by cases h; rfl
  deliveries := always_nil

/-- The invariant holds before the loop ends. -/
theorem stateInv_exec (cfg : InitialConfig) (streams : S) (env : E) (n : Nat) :
    StateInv cfg.localAgentSettings.isSome (exec d cfg streams env n).2 :=
  Prog.inv_bind (inv_new d cfg) (fun _ => (kept_stateInv d).run n) _
    (stateInv_initial d cfg streams env)

/-- A run that ends is in the state `Disconnected`. -/
theorem exec_ended (cfg : InitialConfig) (streams : S) (env : E) (n : Nat)
    (hr : (exec d cfg streams env n).1 = some ()) :
    (exec d cfg streams env n).2.now.conn.connectionState = .disconnected none := by
  have hnew := inv_new d cfg _ (stateInv_initial d cfg streams env)
  obtain ⟨h, hI, heq⟩ := (kept_stateInv d).keptByLoop.keptByIterations.exec_returned hnew hr
  rw [heq] at hr ⊢
  exact (inv_onConnectionLoopEnd d hI).2 hr

/-- **The states delivered to the user.** In every run every state is right when it is delivered:
it shows the network flag, the tunnel information just read and the mode, and it differs from the
state delivered before. When the loop has ended the state delivered last, if any, is
`Disconnected`. -/
theorem delivered_states (cfg : InitialConfig) (streams : S) (env : E) (n : Nat) :
    Always (Delivery cfg.localAgentSettings.isSome) (exec d cfg streams env n).2.past ∧
      ((exec d cfg streams env n).1 = some () →
        ∀ last, lastOf Obs.delivered (exec d cfg streams env n).2.past = some last →
          last.connectionState = .disconnected none) := by
  have hI := stateInv_exec d cfg streams env n
  refine ⟨hI.deliveries, fun hr last hlast => ?_⟩
  have hcur := hI.current
  rw [hlast, exec_ended d cfg streams env n hr] at hcur
  exact hcur.symm

end PvpnConnection

end Protun
