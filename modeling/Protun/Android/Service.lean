import Protun.Android.Networks
import Protun.Android.Observer
import Protun.Android.Turns
import Protun.Kotlin.StateFlow

/-!
# The VPN service (`ProTunVpnService.kt`)

The manager is made once for the process. Service instances come and go around it: `onCreate` starts
the collector of the validated networks in a scope of the instance, `onStartCommand` turns an intent
into at most one call of the manager, and `onDestroy` clears the connection and cancels the scope.
`Host.step` puts this around the main thread and the native threads (`State.step`) and beside the
thread on which the `ConnectivityManager` calls the observer.

* A connection is opened with `networkObserver.validatedNetworks.value` of that moment (`reads`).
* `onRevoke` is a turn of the main thread here. In the code it comes on a binder thread, and nothing
  keeps it from overlapping a turn. `Binder.lean` has that thread, and shows that what is proved
  here holds of the runs in which it does not.
* The intent for a restored process and the one of the system's always-on setting only reach the
  app's `SystemEventHandler`.

Results, for every interleaving of the main thread, the observer and the native threads:

* `Host.system_run`: what a host does is a run of the system without the service.
* **`Host.served_of_idle`**: a connection is active only while an instance is in the foreground, an
  instance that has gone leaves no native thread behind, and one that stays in the foreground
  without a connection shows the error that ended it.
-/

namespace Protun.Android

open Trace Kotlin

/-! ## Intents -/

/-- `VpnAction.Update`. -/
inductive Update where
  | interfaceConfig (interfaceConfig : InterfaceConfig)
  | peers (peers : List PeerInfo)
  | packetCapture (packetCaptureInfo : Option PacketCaptureInfo)
  | settings (settings : LocalAgentSettings)
  | apiSelector (selector : ForkSelectorInfo)
  | requestConnectionStats
  | requestLocalAgentStats

/-- `VpnAction`. -/
inductive VpnAction where
  | connect (config : InitialConfig)
  | disconnect
  | update (update : Update)

/-- What `onStartCommand` is given. -/
inductive Intent where
  /-- `null`: the process has been restored. -/
  | restored
  /-- `SERVICE_INTERFACE`: the system's always-on setting. -/
  | serviceInterface
  | vpnAction (action : VpnAction)
  | other (action : String)

/-- The call of the manager for an update. -/
def Update.call (answers : Answers) : Update → Call
  | .interfaceConfig config => .updateInterfaceConfig config answers
  | .peers list => .updatePeers list
  | .packetCapture info => .setPacketCaptureEnabled info
  | .settings value => .updateLocalAgentSettings value
  | .apiSelector selector => .provideApiForkSelector selector
  | .requestConnectionStats => .requestConnectionStats
  | .requestLocalAgentStats => .requestLocalAgentStats

/-- An instance of `ProTunVpnService`. -/
structure ProTunVpnService where
  /-- `startForeground` has been called, and `stopForeground` has not since. -/
  foreground : Bool
  /-- `stopSelf` has been called. -/
  stopped : Bool
  /-- The last answer of `onStartCommand` was `START_STICKY`. -/
  sticky : Bool
  deriving DecidableEq, Repr

namespace ProTunVpnService

def new : ProTunVpnService := ⟨false, false, false⟩

/-- `stopForeground` and `stopSelf`. -/
def stop (s : ProTunVpnService) : ProTunVpnService :=
  { s with foreground := false, stopped := true }

/-- `onStartCommand`: the call of the manager, and the instance afterwards. -/
def onStartCommand (s : ProTunVpnService) (m : Manager) (answers : Answers) :
    Intent → Option Call × ProTunVpnService
  | .restored | .serviceInterface | .other _ => (none, { s with sticky := false })
  | .vpnAction action =>
    -- `startForeground` comes first, whatever the action
    let s := { s with foreground := true }
    match action with
    | .connect config => (some (.connect config answers), { s with sticky := true })
    | .disconnect => (some (.clearConnection (.disconnected none)), { s.stop with sticky := false })
    | .update update =>
      if m.activeConnection.isSome then
        (some (update.call answers), { s with sticky := true })
      else (none, { s.stop with sticky := false })

end ProTunVpnService

/-! ## The system -/

structure Host where
  system : State
  /-- `networkObserver.validatedNetworks` with the collector of `init`. -/
  networks : StateFlow (Finset Network)
  service : Option ProTunVpnService
  /-- The networks of the active connection were read when the collector had not been given them,
  and it has been given nothing since. The code does not keep this. -/
  ahead : Bool

def Host.initial : Host := ⟨.initial, .new ∅, none, true⟩

inductive HostEvent where
  /-- On the thread of the `ConnectivityManager`. -/
  | callback (c : NetworkCallback)
  | onCreate
  | onStartCommand (intent : Intent) (answers : Answers)
  | onRevoke
  | onDestroy
  /-- The collector of the validated networks is resumed. -/
  | collect
  /-- The main thread goes on or runs a task, or a native thread takes a step. -/
  | system (e : Event)

/-- The main thread starts a turn. -/
def State.turn (s : State) (actions : List Action) : Option State :=
  match s.main with
  | [] => some { s with main := actions }
  | _ :: _ => none

/-- The networks that `connect` reads just before `unixConnect`. -/
def reads : List Action → Option (Finset Network)
  | .unixConnect _ _ :: .setActive (some active) :: _ => some active.validatedNetworks
  | _ => none

namespace Host

def step (h : Host) : HostEvent → Option Host
  | .callback c => some { h with networks := h.networks.set (c.apply h.networks.value) }
  | .onCreate =>
    match h.service with
    | some _ => none
    | none => (h.system.turn []).map fun system =>
      { system, networks := h.networks.launch, service := some .new, ahead := true }
  | .onStartCommand intent answers =>
    match h.service with
    | none => none
    | some service =>
      let (call, service) := service.onStartCommand h.system.manager answers intent
      (h.system.turn (call.elim [] fun c => c.actions h.system.manager)).map fun system =>
        { h with system, service := some service }
  | .onRevoke =>
    match h.service with
    | none => none
    | some service =>
      (h.system.turn (h.system.manager.clearConnection
        (.disconnected (some .serviceRevoked)))).map fun system =>
          { h with system, service := some service.stop }
  | .onDestroy =>
    match h.service with
    | none => none
    | some _ =>
      (h.system.turn (h.system.manager.clearConnection (.disconnected none))).map fun system =>
        { system, networks := h.networks.cancel, service := none, ahead := true }
  | .collect =>
    match h.networks.resume with
    | none => none
    | some (none, networks) => (h.system.turn []).map fun system => { h with system, networks }
    | some (some validatedNetworks, networks) =>
      (h.system.turn (h.system.manager.onValidatedNetworks validatedNetworks)).map fun system =>
        { h with system, networks, ahead := false }
  | .system (.call _) => none
  | .system .act =>
    match reads h.system.main with
    | none => (h.system.step .act).map fun system => { h with system }
    | some validatedNetworks =>
      if validatedNetworks = h.networks.value then
        (h.system.step .act).map fun system =>
          { h with system, ahead := decide (h.networks.emitted ≠ some h.networks.value) }
      else none
  | .system e => (h.system.step e).map fun system => { h with system }

end Host

/-- The steps, as a relation. -/
inductive HostMoves (h : Host) : HostEvent → Host → Prop where
  | callback (c : NetworkCallback) :
      HostMoves h (.callback c) { h with networks := h.networks.set (c.apply h.networks.value) }
  | onCreate (hidle : h.system.main = []) (hs : h.service = none) :
      HostMoves h .onCreate
        { h with networks := h.networks.launch, service := some .new, ahead := true }
  | onStartCommand {intent : Intent} {answers : Answers} {call : Option Call}
      {service service' : ProTunVpnService} (hidle : h.system.main = [])
      (hs : h.service = some service)
      (hc : service.onStartCommand h.system.manager answers intent = (call, service')) :
      HostMoves h (.onStartCommand intent answers)
        { h with
          system := { h.system with main := call.elim [] fun c => c.actions h.system.manager }
          service := some service' }
  | onRevoke {service : ProTunVpnService} (hidle : h.system.main = [])
      (hs : h.service = some service) :
      HostMoves h .onRevoke
        { h with
          system := { h.system with
            main := h.system.manager.clearConnection (.disconnected (some .serviceRevoked)) }
          service := some service.stop }
  | onDestroy {service : ProTunVpnService} (hidle : h.system.main = [])
      (hs : h.service = some service) :
      HostMoves h .onDestroy
        { system := { h.system with
            main := h.system.manager.clearConnection (.disconnected none) }
          networks := h.networks.cancel
          service := none
          ahead := true }
  | collectNothing {networks : StateFlow (Finset Network)} (hidle : h.system.main = [])
      (hr : h.networks.resume = some (none, networks)) :
      HostMoves h .collect { h with networks }
  | collect {v : Finset Network} {networks : StateFlow (Finset Network)}
      (hidle : h.system.main = []) (hr : h.networks.resume = some (some v, networks)) :
      HostMoves h .collect
        { h with
          system := { h.system with main := h.system.manager.onValidatedNetworks v }
          networks
          ahead := false }
  | unixConnect {system : State} (hreads : reads h.system.main = some h.networks.value)
      (hstep : h.system.step .act = some system) :
      HostMoves h (.system .act)
        { h with system, ahead := decide (h.networks.emitted ≠ some h.networks.value) }
  | system {e : Event} {system : State} (hcall : ∀ c, e ≠ .call c)
      (hreads : e = .act → reads h.system.main = none) (hstep : h.system.step e = some system) :
      HostMoves h (.system e) { h with system }

theorem State.turn_eq_some {s s' : State} {actions : List Action}
    (h : s.turn actions = some s') : s.main = [] ∧ s' = { s with main := actions } := by
  unfold turn at h
  split at h
  · next hidle =>
    cases h
    exact ⟨hidle, rfl⟩
  · cases h

theorem State.turn_nil {s s' : State} (h : s.turn [] = some s') : s.main = [] ∧ s' = s := by
  obtain ⟨hidle, rfl⟩ := turn_eq_some h
  obtain ⟨manager, main, natives, tasks⟩ := s
  obtain rfl : main = [] := hidle
  exact ⟨rfl, rfl⟩

theorem Host.moves_system {h h' : Host} {e : Event} (hstep : h.step (.system e) = some h') :
    HostMoves h (.system e) h' := by
  cases e with
  | call c => cases hstep
  | act =>
    simp only [step] at hstep
    cases hreads : reads h.system.main with
    | none =>
      simp only [hreads] at hstep
      obtain ⟨system, hsystem, rfl⟩ := Option.map_eq_some_iff.mp hstep
      exact .system (by simp) (fun _ => hreads) hsystem
    | some v =>
      simp only [hreads] at hstep
      obtain ⟨hv, hstep⟩ := Option.ite_none_right_eq_some.mp hstep
      obtain ⟨system, hsystem, rfl⟩ := Option.map_eq_some_iff.mp hstep
      exact .unixConnect (hreads.trans (congrArg some hv)) hsystem
  | runTask | native | launch =>
    obtain ⟨system, hsystem, rfl⟩ := Option.map_eq_some_iff.mp hstep
    exact .system (by simp) (by simp) hsystem

theorem Host.moves {h h' : Host} {e : HostEvent} (hstep : h.step e = some h') :
    HostMoves h e h' := by
  cases e with
  | callback c =>
    cases hstep
    exact .callback c
  | onCreate =>
    simp only [step] at hstep
    split at hstep
    · cases hstep
    · next hs =>
      obtain ⟨system, hturn, rfl⟩ := Option.map_eq_some_iff.mp hstep
      obtain ⟨hidle, rfl⟩ := State.turn_nil hturn
      exact .onCreate hidle hs
  | onStartCommand intent answers =>
    simp only [step] at hstep
    split at hstep
    · cases hstep
    · next hs =>
      obtain ⟨system, hturn, rfl⟩ := Option.map_eq_some_iff.mp hstep
      obtain ⟨hidle, rfl⟩ := State.turn_eq_some hturn
      exact .onStartCommand hidle hs rfl
  | onRevoke =>
    simp only [step] at hstep
    split at hstep
    · cases hstep
    · next hs =>
      obtain ⟨system, hturn, rfl⟩ := Option.map_eq_some_iff.mp hstep
      obtain ⟨hidle, rfl⟩ := State.turn_eq_some hturn
      exact .onRevoke hidle hs
  | onDestroy =>
    simp only [step] at hstep
    split at hstep
    · cases hstep
    · next hs =>
      obtain ⟨system, hturn, rfl⟩ := Option.map_eq_some_iff.mp hstep
      obtain ⟨hidle, rfl⟩ := State.turn_eq_some hturn
      exact .onDestroy hidle hs
  | collect =>
    simp only [step] at hstep
    split at hstep
    · cases hstep
    · next hr =>
      obtain ⟨system, hturn, rfl⟩ := Option.map_eq_some_iff.mp hstep
      obtain ⟨hidle, rfl⟩ := State.turn_nil hturn
      exact .collectNothing hidle hr
    · next hr =>
      obtain ⟨system, hturn, rfl⟩ := Option.map_eq_some_iff.mp hstep
      obtain ⟨hidle, rfl⟩ := State.turn_eq_some hturn
      exact .collect hidle hr
  | system e => exact moves_system hstep

/-! ## The main thread and the native threads -/

theorem State.step_call {s : State} (hidle : s.main = []) (c : Call) :
    s.step (.call c) = some { s with main := c.actions s.manager } := by
  simp only [step, hidle]

/-- What a host does to the system is nothing, or a step of it. -/
theorem HostMoves.system_step {h h' : Host} {e : HostEvent} (hm : HostMoves h e h') :
    h'.system = h.system ∨ ∃ e', h.system.step e' = some h'.system := by
  cases hm with
  | callback | onCreate | collectNothing => exact .inl rfl
  | @onStartCommand intent answers call service service' hidle hs hc =>
    cases call with
    | none => exact .inl (by simp [← hidle])
    | some c => exact .inr ⟨_, State.step_call hidle c⟩
  | onRevoke hidle hs => exact .inr ⟨_, State.step_call hidle (.clearConnection _)⟩
  | onDestroy hidle hs => exact .inr ⟨_, State.step_call hidle (.clearConnection _)⟩
  | collect hidle hr => exact .inr ⟨_, State.step_call hidle (.validatedNetworks _)⟩
  | unixConnect hreads hstep => exact .inr ⟨_, hstep⟩
  | system hcall hreads hstep => exact .inr ⟨_, hstep⟩

theorem HostMoves.reachable {h h' : Host} {e : HostEvent} (hm : HostMoves h e h')
    (hreach : ∃ l, after State.step .initial l = some h.system) :
    ∃ l, after State.step .initial l = some h'.system := by
  obtain ⟨l, hl⟩ := hreach
  rcases hm.system_step with heq | ⟨e', he'⟩
  · exact ⟨l, heq ▸ hl⟩
  · exact ⟨l ++ [e'], after_snoc.mpr ⟨h.system, hl, he'⟩⟩

/-- So its runs are runs of the system. -/
theorem Host.system_run {l : List HostEvent} {h : Host}
    (hrun : after Host.step .initial l = some h) :
    ∃ l', after State.step .initial l' = some h.system :=
  after_inv (I := fun h : Host => ∃ l', after State.step .initial l' = some h.system) hrun
    ⟨[], rfl⟩ fun _ _ _ hstep hreach => (Host.moves hstep).reachable hreach

/-! ## What holds of the service -/

/-- An update keeps the connection or ends it with an error. -/
theorem Manager.update_outcome (m : Manager) (answers : Answers) (update : Update) :
    (∃ reason, m.Ended ((update.call answers).actions m) (.disconnected (some reason))) ∨
      m.Kept ((update.call answers).actions m) := by
  cases update with
  | interfaceConfig config => exact updateInterfaceConfig_outcome m config answers
  | packetCapture info =>
    have hkept := kept_onActive m (captureRequest info)
    rw [← setPacketCaptureEnabled_eq] at hkept
    exact .inr hkept
  | peers | settings | apiSelector | requestConnectionStats | requestLocalAgentStats =>
    exact .inr (kept_onActive m _)

/-- The manager when the turn under way is complete. -/
def State.settled (s : State) : Manager := s.manager.perform s.main

theorem State.settled_of_idle {s : State} (hidle : s.main = []) : s.settled = s.manager := by
  rw [settled, hidle]
  rfl

/-- A step that is not a call goes on with the turn under way, or starts a task. -/
theorem State.settled_step {s s' : State} {e : Event} (hstep : s.step e = some s')
    (hcall : ∀ c, e ≠ .call c) :
    s'.settled = s.settled ∨
      s.main = [] ∧ ∃ t : Task, s'.manager = s.manager ∧
        s'.main = s.manager.onProTunStateChange t.origin t.proTunState := by
  cases State.moves hstep with
  | call c hidle => exact absurd rfl (hcall c)
  | @runTask t tasks hidle htasks => exact .inr ⟨hidle, t, rfl, rfl⟩
  | act hmain heffect =>
    refine .inl ?_
    rw [settled, settled, hmain]
    rfl
  | native hn => exact .inl rfl
  | launch hr => exact .inl rfl

/-- The manager between two turns, and the service around it. -/
structure Served (m : Manager) (service : Option ProTunVpnService) : Prop where
  foreground : m.activeConnection ≠ none → ∃ s, service = some s ∧ s.foreground = true
  disconnected : m.activeConnection = none → ∃ error, m.state = ⟨.down none, .disconnected error⟩
  failed : ∀ s, service = some s → s.foreground = true → m.activeConnection = none →
    ∃ reason, m.state = .disconnectedWith reason

namespace Served

variable {m m' : Manager} {s s' : ProTunVpnService} {service : Option ProTunVpnService}

theorem of_active (ha : m.activeConnection ≠ none) (hf : s.foreground = true) :
    Served m (some s) where
  foreground _ := ⟨s, rfl, hf⟩
  disconnected hnone := absurd hnone ha
  failed _ _ _ hnone := absurd hnone ha

theorem of_idle {error : Option VpnDisconnectError} (hnone : m.activeConnection = none)
    (hstate : m.state = ⟨.down none, .disconnected error⟩)
    (hf : ∀ s, service = some s → s.foreground = true → error ≠ none) : Served m service where
  foreground hne := absurd hnone hne
  disconnected _ := ⟨error, hstate⟩
  failed s hs hfore _ := by
    obtain ⟨reason, rfl⟩ := Option.ne_none_iff_exists'.mp (hf s hs hfore)
    exact ⟨reason, hstate⟩

/-- The same connection, and the same state if there is none. -/
theorem congr (h : Served m service)
    (hactive : m'.activeConnection = none ↔ m.activeConnection = none)
    (hstate : m.activeConnection = none → m'.state = m.state) : Served m' service where
  foreground hne := h.foreground (mt hactive.mpr hne)
  disconnected hnone := by
    rw [hstate (hactive.mp hnone)]
    exact h.disconnected (hactive.mp hnone)
  failed s hs hf hnone := by
    rw [hstate (hactive.mp hnone)]
    exact h.failed s hs hf (hactive.mp hnone)

/-- An instance that leaves the foreground, or was not there, is only served without a
connection. -/
theorem background (h : Served m service) (hnone : m.activeConnection = none)
    (hf : s.foreground = false) : Served m (some s) := by
  obtain ⟨error, hstate⟩ := h.disconnected hnone
  refine of_idle hnone hstate ?_
  rintro _ ⟨⟩ hfore
  cases hf.symm.trans hfore

theorem same_foreground (h : Served m (some s)) (hf : s'.foreground = s.foreground) :
    Served m (some s') where
  foreground hne := by
    obtain ⟨_, ⟨⟩, hfore⟩ := h.foreground hne
    exact ⟨s', rfl, hf.trans hfore⟩
  disconnected := h.disconnected
  failed := by
    rintro _ ⟨⟩ hfore
    exact h.failed s rfl (hf.symm.trans hfore)

theorem of_ended {actions : List Action} {error : Option VpnDisconnectError}
    (h : m.Ended actions (.disconnected error))
    (hf : ∀ s, service = some s → s.foreground = true → error ≠ none) :
    Served (m.perform actions) service :=
  of_idle h.active h.state hf

/-- `onStartCommand`, with the turn it starts. -/
theorem onStartCommand (h : Served m (some s)) (answers : Answers) (intent : Intent) :
    Served (m.perform ((s.onStartCommand m answers intent).1.elim [] fun c => c.actions m))
      (some (s.onStartCommand m answers intent).2) := by
  cases intent with
  | restored | serviceInterface | other => exact h.same_foreground rfl
  | vpnAction action =>
    cases action with
    | connect config =>
      rcases m.connect_outcome config answers with ho | ⟨reason, he⟩ | ⟨hsome, hk⟩
      · exact of_active (Option.isSome_iff_ne_none.mp ho.active) rfl
      · exact of_ended he fun _ _ _ => by simp
      · exact of_active (mt hk.active_eq_none_iff.mp (Option.isSome_iff_ne_none.mp hsome)) rfl
    | disconnect =>
      refine of_ended (m.ended_clearConnection m (.disconnected none)) ?_
      rintro _ ⟨⟩ ⟨⟩
    | update update =>
      simp only [ProTunVpnService.onStartCommand]
      split
      · next hsome =>
        rcases m.update_outcome answers update with ⟨reason, he⟩ | hk
        · exact of_ended he fun _ _ _ => by simp
        · exact of_active (mt hk.active_eq_none_iff.mp (Option.isSome_iff_ne_none.mp hsome)) rfl
      · next hsome => exact h.background (by simpa using hsome) rfl

end Served

theorem served_system {s s' : State} {e : Event} {service : Option ProTunVpnService}
    (h : Served s.settled service) (hstep : s.step e = some s') (hcall : ∀ c, e ≠ .call c) :
    Served s'.settled service := by
  rcases State.settled_step hstep hcall with heq | ⟨hidle, t, hmanager, hmain⟩
  · exact heq ▸ h
  · rw [State.settled_of_idle hidle] at h
    obtain ⟨-, hactive, hstate⟩ := s.manager.onProTunStateChange_outcome t.origin t.proTunState
    rw [State.settled, hmanager, hmain]
    exact h.congr (by rw [hactive]) hstate

/-- What holds of a host once the turn under way is complete. -/
theorem Host.served_step {h h' : Host} {e : HostEvent} (hm : HostMoves h e h')
    (hs : Served h.system.settled h.service) : Served h'.system.settled h'.service := by
  have hidle : h.system.main = [] → Served h.system.manager h.service := fun hidle => by
    rwa [State.settled_of_idle hidle] at hs
  cases hm with
  | callback | collectNothing => exact hs
  | onCreate hmain hservice =>
    refine hs.background ?_ rfl
    by_contra hne
    obtain ⟨s, hsome, -⟩ := hs.foreground hne
    cases hservice.symm.trans hsome
  | @onStartCommand intent answers call service service' hmain hservice hc =>
    have hbefore : Served h.system.manager (some service) := hservice ▸ hidle hmain
    have hafter := hbefore.onStartCommand answers intent
    rw [hc] at hafter
    exact hafter
  | onRevoke hmain hservice =>
    refine Served.of_ended (Manager.ended_clearConnection _ _ _) ?_
    rintro _ ⟨⟩ ⟨⟩
  | onDestroy hmain hservice =>
    exact Served.of_ended (Manager.ended_clearConnection _ _ _) nofun
  | @collect v networks hmain hr =>
    obtain ⟨-, hnetworks, hstate⟩ := h.system.manager.onValidatedNetworks_outcome v
    refine (hidle hmain).congr ?_ fun _ => hstate
    rw [← Manager.networks_eq_none_iff, ← Manager.networks_eq_none_iff]
    exact hnetworks ▸ Option.map_eq_none_iff
  | unixConnect hreads hstep => exact served_system hs hstep (by simp)
  | system hcall hreads hstep => exact served_system hs hstep hcall

/-- Between two turns, no native thread is left when there is no connection. -/
theorem Host.ended_of_idle {l : List HostEvent} {h : Host}
    (hrun : after Host.step .initial l = some h) (hidle : h.system.main = [])
    (hnone : h.system.manager.activeConnection = none) (i : Nat) :
    (h.system.natives i).thread = .ended := by
  obtain ⟨l', hl'⟩ := Host.system_run hrun
  obtain ⟨v, hv⟩ := sound_of_run hl'
  obtain ⟨v', hv', hr⟩ := hv.completes
  rw [hidle] at hv'
  cases hv'
  exact hv.natives.joined (hr.joined (hv.describes.active_eq_none hnone)) i

/-- **The service and its connection.** Between two turns of the main thread, in every
interleaving: a connection is active only while an instance is in the foreground; when there is
none, also because the instance is gone, every native thread has ended and the state says
disconnected; and an instance that is in the foreground without a connection says why. -/
theorem Host.served_of_idle {l : List HostEvent} {h : Host}
    (hrun : after Host.step .initial l = some h) (hidle : h.system.main = []) :
    (h.system.manager.activeConnection ≠ none →
      ∃ s, h.service = some s ∧ s.foreground = true) ∧
    (h.system.manager.activeConnection = none →
      (∀ i, (h.system.natives i).thread = .ended) ∧
      ∃ error, h.system.manager.state = ⟨.down none, .disconnected error⟩) ∧
    (∀ s, h.service = some s → s.foreground = true → h.system.manager.activeConnection = none →
      ∃ reason, h.system.manager.state = .disconnectedWith reason) := by
  have hserved : Served h.system.settled h.service :=
    after_inv (I := fun h : Host => Served h.system.settled h.service) hrun
      (@Served.of_idle _ _ none rfl rfl nofun)
      fun _ _ _ hstep hs => Host.served_step (Host.moves hstep) hs
  rw [State.settled_of_idle hidle] at hserved
  exact ⟨hserved.foreground,
    fun hnone => ⟨Host.ended_of_idle hrun hidle hnone, hserved.disconnected hnone⟩,
    hserved.failed⟩

end Protun.Android
