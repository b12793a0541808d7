import Protun.Connection.State

/-!
# The network flag of the connection loop

The system's view of the network reaches the loop as `ConnectivityChange` messages, and everything
else the loop does with its `NetworkRecoveryHandler` leaves `network_available` alone.

* **`exec_networkAvailable`**: at the end of every run the flag is the initial one with the
  connectivity events that were received applied to it, in order.
-/

namespace Protun

open Trace

/-- The connectivity event that is received. -/
def Obs.connectivity : Obs → Option ConnectivityEvent
  | .recv (some m) => m.connectivity
  | _ => none

/-- No connectivity event is received. -/
def Obs.isUneventful (o : Obs) : Bool := o.connectivity.isNone

theorem Obs.isUneventful_of_isBackground (o : Obs) (h : o.isBackground = true) :
    o.isUneventful = true := by
  cases o <;> first | rfl | cases h

theorem Obs.isUneventful_of_isAside (o : Obs) (h : o.isAside = true) : o.isUneventful = true := by
  cases o <;> first | rfl | cases h

theorem Obs.isUneventful_of_isCapture (o : Obs) (h : o.isCapture = true) :
    o.isUneventful = true := by
  cases o <;> first | rfl | cases h

/-- Only the last event matters to the flag. -/
theorem flagAfter_eq_getLast? (flag : Bool) (events : List ConnectivityEvent) :
    flagAfter flag events = (events.getLast?.map ConnectivityEvent.available).getD flag := by
  induction events generalizing flag with
  | nil => rfl
  | cons event events ih =>
    rw [List.getLast?_cons]
    change flagAfter event.available events = _
    rw [ih]
    cases events.getLast? <;> rfl

namespace PvpnConnection

open Conn

variable {E S X F : Type} (d : PvpnDependencies E S X F)

/-- The network flag is left alone. -/
def SameNetwork (c c' : PvpnConnection S F) : Prop :=
  c'.networkRecoveryHandler.networkAvailable = c.networkRecoveryHandler.networkAvailable

instance isPreorder_sameNetwork : IsPreorder (PvpnConnection S F) SameNetwork where
  refl _ := rfl
  trans _ _ _ h₁ h₂ := Eq.trans h₂ h₁

/-- Neither the flag nor the events received change. -/
abbrev Offline (h h' : Hist (Sys E S F) Obs) : Prop := Step SameNetwork Obs.isUneventful h h'

/-- The flag is the one given by the last event, or `start`. -/
def NetworkInv (start : Bool) (h : Hist (Sys E S F) Obs) : Prop :=
  h.now.conn.networkRecoveryHandler.networkAvailable =
    ((lastOf Obs.connectivity h.past).map ConnectivityEvent.available).getD start

variable {start : Bool}

theorem NetworkInv.offline {h h' : Hist (Sys E S F) Obs} (hs : Offline h h')
    (hI : NetworkInv start h) : NetworkInv start h' := by
  have hlast : lastOf Obs.connectivity h'.past = lastOf Obs.connectivity h.past :=
    hs.observed.lastOf fun _ _ ho => Option.isNone_iff_eq_none.mp ho
  unfold NetworkInv
  rw [hlast]
  exact Eq.trans hs.core hI

theorem inv_of_offline {α : Type} {x : Conn E S F α} (hx : Prog.Rel Offline x) :
    Prog.Inv (NetworkInv start) x :=
  hx.inv fun _ _ => NetworkInv.offline

/-! ## What leaves the flag alone -/

theorem offline_setState (state : ConnectionState) : Prog.Rel Offline (setState d state) :=
  step_setState d (fun _ _ => rfl) (fun _ => rfl) state

theorem offline_handleUpdate (u : ConfigUpdate) : Prog.Rel Offline (handleUpdate d u) := by
  refine step_handleUpdate d (fun _ _ => rfl) (fun _ _ => rfl) (fun _ => rfl) (fun _ => rfl)
    (fun _ => rfl) (fun tun => ?_) u
  exact step_updateTun d (fun _ _ => rfl) (fun _ _ => rfl) (fun _ _ => rfl) tun

/-- A message without a connectivity event. -/
theorem offline_handleMessage {m : PvpnMessage} (hm : m.connectivity = none) :
    Prog.Rel Offline (handleMessage d m) := by
  cases haside : m.isAside with
  | true =>
    exact fun h => (aside_handleMessage d haside h).mono
      (fun _ _ hu => hu.core.networkAvailable) Obs.isUneventful_of_isAside
  | false =>
    cases m with
    | disconnect => exact step_update fun _ => rfl
    | update u => exact offline_handleUpdate d u
    | connectivityChange event => cases hm
    | _ => cases haside

theorem offline_updateState : Prog.Rel Offline (updateState d) :=
  step_updateState d (fun _ _ _ => rfl) (fun _ _ => rfl) (fun _ _ h => h) (fun _ => rfl)
    (fun _ => rfl) fun _ => rfl

theorem offline_onConnectionLoopEnd : Prog.Rel Offline (onConnectionLoopEnd d) :=
  step_onConnectionLoopEnd d (fun _ _ => rfl) (fun _ _ => rfl) rfl Obs.isUneventful_of_isCapture
    fun _ => rfl

theorem offline_new (cfg : InitialConfig) : Prog.Rel Offline (new d cfg) := by
  refine Prog.rel_bind step_conn fun c => ?_
  refine Prog.rel_bind (Prog.rel_forEach (fun p => step_inform rfl _) _) fun _ => ?_
  refine Prog.rel_bind (step_announceNetwork d (fun _ _ => rfl) rfl fun _ => rfl) fun _ => ?_
  refine Prog.rel_bind (step_ifSome fun file => ?_) fun _ => step_ifSome fun settings => ?_
  · exact step_startPacketCapture d (fun _ _ => rfl) Obs.isUneventful_of_isCapture file
  · exact Prog.rel_bind (Prog.rel_forEach (fun _ => step_inform rfl _) _) fun _ =>
      step_inform rfl _

/-! ## What a connectivity event does -/

/-- The event that has been received last is applied. -/
theorem onConnectivityChange_networkInv {event : ConnectivityEvent} (info : Option TunnelInfo)
    {h : Hist (Sys E S F) Obs} (hr : lastOf Obs.connectivity h.past = some event) :
    NetworkInv start (onConnectivityChange d event info h).2 := by
  have hrest : ∀ c : PvpnConnection S F, Prog.Rel Offline
      (if c.networkRecoveryHandler.networkAvailable then
        inform .notifyNetworkChange d.client.notifyNetworkChange
      else do
        inform .notifyNetworkDown d.client.notifyNetworkDown
        setState d (networkUnavailableState info) : Conn E S F Unit) := by
    intro c
    split
    · exact step_inform rfl _
    · exact Prog.rel_bind (step_inform rfl _) fun _ => offline_setState d _
  unfold onConnectivityChange
  refine Prog.leaves_bind (I := NetworkInv start) ?_ fun _ => Prog.inv_bind inv_conn fun c =>
    inv_of_offline (hrest c)
  -- the flag is set to what the event says
  change (h.now.conn.networkRecoveryHandler.onConnectivityChange event).networkAvailable =
    ((lastOf Obs.connectivity h.past).map ConnectivityEvent.available).getD start
  rw [NetworkRecoveryHandler.onConnectivityChange_networkAvailable, hr]
  rfl

/-- Handling a message that has just been read. -/
theorem handleMessage_networkInv {h : Hist (Sys E S F) Obs} (hI : NetworkInv start h)
    (m : PvpnMessage) (s : Sys E S F) (hs : s.conn = h.now.conn) :
    NetworkInv start (handleMessage d m ((h.set s).emit (.recv (some m)))).2 := by
  cases hm : m.connectivity with
  | none =>
    refine inv_of_offline (offline_handleMessage d hm) _ (NetworkInv.offline ?_ hI)
    have hset : Offline h (h.set s) := step_set (by rw [hs]; exact refl_of SameNetwork _)
    exact trans_of Offline hset (step_emit (Option.isNone_iff_eq_none.mpr hm) _)
  | some event =>
    cases m with
    | connectivityChange event' =>
      cases hm
      have hreceived : lastOf Obs.connectivity
          ((h.set s).emit (.recv (some (.connectivityChange event)))).past = some event :=
        lastOf_snoc_some (f := Obs.connectivity) rfl _ _
      simp only [handleMessage]
      rw [Prog.bind_of_some (ask_eq _ _ _)]
      refine onConnectivityChange_networkInv d _ (Eq.trans ?_ hreceived)
      exact lastOf_snoc_none (f := Obs.connectivity) rfl _ _
    | _ => cases hm

theorem inv_receiveMessage_network : Prog.Inv (NetworkInv start) (receiveMessage d) := by
  intro h hI
  unfold receiveMessage
  rw [Prog.bind_of_some (ask_eq _ _ _)]
  cases (d.tryRecv h.now.env).1 with
  | none =>
    have hset : Offline h (h.set { h.now with env := (d.tryRecv h.now.env).2 }) :=
      step_set (refl_of SameNetwork _)
    exact hI.offline (trans_of Offline hset (step_emit rfl _))
  | some m =>
    exact Prog.leaves_bind (handleMessage_networkInv d hI m _ rfl) fun _ => Prog.inv_pure _

theorem kept_networkInv : Kept d (NetworkInv start) :=
  .of_background
    (fun _ _ hb => NetworkInv.offline
      (hb.mono (fun _ _ hm => hm.networkAvailable) Obs.isUneventful_of_isBackground))
    (inv_receiveMessage_network d) (inv_of_offline (offline_updateState d))
    (inv_of_offline (offline_onConnectionLoopEnd d))

/-- **The flag of the loop is the initial one with the received events applied to it.** -/
theorem exec_networkAvailable (cfg : InitialConfig) (streams : S) (env : E) (n : Nat) :
    (exec d cfg streams env n).2.now.conn.networkRecoveryHandler.networkAvailable =
      flagAfter cfg.networkAvailable
        ((exec d cfg streams env n).2.past.filterMap fun x => x.1.connectivity) := by
  have hinit : NetworkInv cfg.networkAvailable
      (Hist.init ⟨env, initial d cfg streams⟩ : Hist (Sys E S F) Obs) := rfl
  have hend : NetworkInv cfg.networkAvailable (exec d cfg streams env n).2 :=
    Prog.inv_bind (inv_of_offline (offline_new d cfg)) (fun _ => (kept_networkInv d).run n) _ hinit
  rw [flagAfter_eq_getLast?]
  exact hend

end PvpnConnection

end Protun
