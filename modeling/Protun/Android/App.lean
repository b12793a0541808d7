import Protun.Android.Collected

/-!
# The app's side (`ProtonVpnConnectionManagerImpl.kt`)

The app talks to the service through intents and listens to it through a binder. `connect` binds to
the service and sends its action; the other calls send theirs; `disconnect` also unbinds. What the
app shows is `_state`: it takes over the manager's state when the service is connected, then follows
the collector that `onCreate` starts, which calls the callback registered with the binder.

* All of this runs on the main thread. A call of the app is the task it launches there.
* **Binders.** Every instance of the service has its own, numbered here. `unbindService` does not
  take the callback out of it; the callback asks `bound` instead.
* **The framework** calls `onServiceConnected` only between `bindService` and `unbindService`, and
  hands over the actions one by one, in the order in which they were sent, to an instance that it
  has created.

Results, for every interleaving with the service and the native threads:

* **`app_state_agrees`**: while the app is attached to the service and the collector waits, it shows
  the manager's state iff it was not attached ahead of the collector (`Mirror` once more).
* `World.Leaves`: a `disconnect` is on its way to the service, or has been handled, and nothing sent
  after it connects. From `disconnect` to the next `connect` every step keeps it.
* **`World.Leaves.left`**: then the app shows that it is disconnected, and once the service has
  handled what was sent no connection is active and no native thread is left.
-/

namespace Protun.Android

open Trace Kotlin

/-- `VpnState.Disconnected`. -/
def VpnState.disconnected : VpnState := ⟨.down none, .disconnected none⟩

/-- The fields of `ProtonVpnConnectionManagerImpl`. -/
structure App where
  bound : Bool
  /-- `_state.value`. -/
  state : VpnState
  /-- The instance that `serviceBinder` belongs to. -/
  serviceBinder : Option Nat

structure World where
  host : Host
  /-- How many instances of the service there have been; the last one has this number. -/
  instances : Nat
  /-- `manager.state` with the collector of `onCreate`. -/
  states : StateFlow VpnState
  /-- The instances whose binder has the callback. -/
  callbacks : Finset Nat
  /-- The actions sent and not yet handed over. -/
  intents : List VpnAction
  app : App
  /-- The binder of the present instance was handed over, and nothing has cut the app off since. The
  code does not keep this. -/
  attached : Bool
  /-- The manager's state was taken over when the collector had not been given it, and it has been
  given nothing since. The code does not keep this. -/
  ahead : Bool

def World.initial : World where
  host := .initial
  instances := 0
  states := .new .disconnected
  callbacks := ∅
  intents := []
  app := ⟨false, .disconnected, none⟩
  attached := false
  ahead := true

inductive AppEvent where
  /-- `connect`, with the answer of `bindService` if it is asked. -/
  | connect (config : InitialConfig) (bindService : Bool)
  | disconnect (error : Option VpnDisconnectError)
  /-- `updateInterfaceConfig`, `updateLocalAgentSettings`, `updateApiSelector`, `updatePeers`,
  `setPacketCaptureEnabled`, `requestConnectionStats` and `requestLocalAgentStats`. -/
  | update (update : Update)
  | onServiceConnected (binder : Nat)
  | onServiceDisconnected
  | onBindingDied
  /-- The collector of the manager's state is resumed. -/
  | collect
  /-- The next action is handed over. -/
  | deliver (answers : Answers)
  | host (e : HostEvent)

/-- The service is given an action. -/
def HostEvent.isAction : HostEvent → Bool
  | .onStartCommand (.vpnAction _) _ => true
  | _ => false

namespace World

/-- The app's part in a turn of the main thread. -/
def task (w w' : World) : Option World := if w.host.system.main.isEmpty then some w' else none

/-- `binder` is that of an instance that has not been destroyed. -/
def serves (w : World) (binder : Nat) : Bool := w.host.service.isSome && binder == w.instances

/-- A step of the service, and what it means for the state and its collector. -/
def hosted (w : World) (e : HostEvent) : Option World :=
  (w.host.step e).map fun host =>
    let w := { w with host, states := w.states.set host.system.manager.state }
    match e with
    | .onCreate =>
      { w with
        instances := w.instances + 1
        states := w.states.launch
        attached := false
        ahead := true }
    | .onDestroy => { w with states := w.states.cancel, attached := false, ahead := true }
    | _ => w

def step (w : World) : AppEvent → Option World
  | .connect config bindService =>
    w.task <|
      if w.app.bound || bindService then
        { w with app := { w.app with bound := true }, intents := w.intents ++ [.connect config] }
      else
        { w with app := { w.app with
            state := .disconnectedWith (.serviceError "Failed to bind to VPN service") } }
  | .disconnect error =>
    w.task { w with
      intents := w.intents ++ [.disconnect]
      app := { w.app with bound := false, state := ⟨.down none, .disconnected error⟩ }
      attached := false }
  | .update update => w.task { w with intents := w.intents ++ [.update update] }
  | .onServiceConnected binder =>
    if w.app.bound then
      w.task { w with
        callbacks := insert binder w.callbacks
        app := { w.app with
          serviceBinder := some binder
          -- `getState` finds no service when the instance has been destroyed
          state := if w.serves binder then w.host.system.manager.state else .disconnected }
        attached := w.serves binder
        ahead := decide (w.states.emitted ≠ some w.states.value) }
    else none
  | .onServiceDisconnected =>
    w.task { w with
      callbacks := w.app.serviceBinder.elim w.callbacks w.callbacks.erase
      app := { w.app with state := .disconnected }
      attached := false }
  | .onBindingDied =>
    w.task { w with
      app := { w.app with bound := false, state := .disconnected }
      attached := false }
  | .collect =>
    match w.states.resume with
    | none => none
    | some (none, states) => w.task { w with states }
    | some (some state, states) =>
      w.task { w with
        states
        -- `binder?.notifyStateChanged`, and the callback asks `bound`
        app := if w.serves w.instances && w.instances ∈ w.callbacks && w.app.bound then
          { w.app with state } else w.app
        ahead := false }
  | .deliver answers =>
    match w.intents with
    | [] => none
    | action :: intents =>
      (w.hosted (.onStartCommand (.vpnAction action) answers)).map fun w => { w with intents }
  | .host e => if e.isAction then none else w.hosted e

end World

/-- The steps, as a relation. -/
inductive WorldMoves (w : World) : AppEvent → World → Prop where
  | connect (config : InitialConfig) {bindService : Bool}
      (hbound : (w.app.bound || bindService) = true) :
      WorldMoves w (.connect config bindService)
        { w with app := { w.app with bound := true }, intents := w.intents ++ [.connect config] }
  | notBound (config : InitialConfig) {bindService : Bool}
      (hbound : (w.app.bound || bindService) = false) :
      WorldMoves w (.connect config bindService)
        { w with app := { w.app with
            state := .disconnectedWith (.serviceError "Failed to bind to VPN service") } }
  | disconnect (error : Option VpnDisconnectError) :
      WorldMoves w (.disconnect error)
        { w with
          intents := w.intents ++ [.disconnect]
          app := { w.app with bound := false, state := ⟨.down none, .disconnected error⟩ }
          attached := false }
  | update (update : Update) :
      WorldMoves w (.update update) { w with intents := w.intents ++ [.update update] }
  | onServiceConnected {binder : Nat} (hbound : w.app.bound = true) (hs : w.serves binder = true) :
      WorldMoves w (.onServiceConnected binder)
        { w with
          callbacks := insert binder w.callbacks
          app := { w.app with
            serviceBinder := some binder
            state := w.host.system.manager.state }
          attached := true
          ahead := decide (w.states.emitted ≠ some w.states.value) }
  | onServiceConnectedLate {binder : Nat} (hbound : w.app.bound = true)
      (hs : w.serves binder = false) :
      WorldMoves w (.onServiceConnected binder)
        { w with
          callbacks := insert binder w.callbacks
          app := { w.app with serviceBinder := some binder, state := .disconnected }
          attached := false
          ahead := decide (w.states.emitted ≠ some w.states.value) }
  | onServiceDisconnected :
      WorldMoves w .onServiceDisconnected
        { w with
          callbacks := w.app.serviceBinder.elim w.callbacks w.callbacks.erase
          app := { w.app with state := .disconnected }
          attached := false }
  | onBindingDied :
      WorldMoves w .onBindingDied
        { w with
          app := { w.app with bound := false, state := .disconnected }
          attached := false }
  | collectNothing {states : StateFlow VpnState} (hr : w.states.resume = some (none, states)) :
      WorldMoves w .collect { w with states }
  | collect {state : VpnState} {states : StateFlow VpnState}
      (hr : w.states.resume = some (some state, states)) :
      WorldMoves w .collect
        { w with
          states
          app := if w.serves w.instances && w.instances ∈ w.callbacks && w.app.bound then
            { w.app with state } else w.app
          ahead := false }
  | deliver {answers : Answers} {action : VpnAction} {intents : List VpnAction} {w' : World}
      (hi : w.intents = action :: intents)
      (hw : w.hosted (.onStartCommand (.vpnAction action) answers) = some w') :
      WorldMoves w (.deliver answers) { w' with intents }
  | host {e : HostEvent} {w' : World} (ha : e.isAction = false)
      (hw : w.hosted e = some w') : WorldMoves w (.host e) w'

theorem World.task_eq_some {w w' w'' : World} (h : w.task w' = some w'') : w'' = w' :=
  (Option.some.inj (Option.ite_none_right_eq_some.mp h).2).symm

theorem World.moves {w w' : World} {e : AppEvent} (h : w.step e = some w') : WorldMoves w e w' := by
  cases e with
  | connect config bindService =>
    rw [task_eq_some h]
    split
    · next hb => exact .connect config hb
    · next hb => exact .notBound config (by simpa using hb)
  | disconnect error =>
    rw [task_eq_some h]
    exact .disconnect error
  | update update =>
    rw [task_eq_some h]
    exact .update update
  | onServiceConnected binder =>
    obtain ⟨hbound, h⟩ := Option.ite_none_right_eq_some.mp h
    rw [task_eq_some h]
    cases hs : w.serves binder with
    | true => exact .onServiceConnected hbound hs
    | false => exact .onServiceConnectedLate hbound hs
  | onServiceDisconnected =>
    rw [task_eq_some h]
    exact .onServiceDisconnected
  | onBindingDied =>
    rw [task_eq_some h]
    exact .onBindingDied
  | collect =>
    simp only [step] at h
    split at h
    · cases h
    · next hr =>
      rw [task_eq_some h]
      exact .collectNothing hr
    · next hr =>
      rw [task_eq_some h]
      exact .collect hr
  | deliver answers =>
    simp only [step] at h
    split at h
    · cases h
    · next hi =>
      obtain ⟨u, hu, rfl⟩ := Option.map_eq_some_iff.mp h
      exact .deliver hi hu
  | host e =>
    obtain ⟨ha, h⟩ := Option.ite_none_left_eq_some.mp h
    exact .host (by simpa using ha) h

/-! ## The service below -/

/-- What a step of the service changes in the world. -/
theorem World.hosted_cases {w w' : World} {e : HostEvent} (h : w.hosted e = some w') :
    ∃ host, w.host.step e = some host ∧
      let states := w.states.set host.system.manager.state
      (e = .onCreate ∧ w' = { w with
        host
        instances := w.instances + 1
        states := states.launch
        attached := false
        ahead := true } ∨
      e = .onDestroy ∧ w' = { w with
        host
        states := states.cancel
        attached := false
        ahead := true } ∨
      e ≠ .onDestroy ∧ w' = { w with host, states }) := by
  obtain ⟨host, hstep, rfl⟩ := Option.map_eq_some_iff.mp h
  refine ⟨host, hstep, ?_⟩
  cases e with
  | onCreate => exact .inl ⟨rfl, rfl⟩
  | onDestroy => exact .inr (.inl ⟨rfl, rfl⟩)
  | _ => exact .inr (.inr ⟨by simp, rfl⟩)

/-- What the app does leaves the service alone. -/
theorem WorldMoves.host_step {w w' : World} {e : AppEvent} (hm : WorldMoves w e w') :
    w'.host = w.host ∨ ∃ e', w.host.step e' = some w'.host := by
  have hosted : ∀ {e w'}, w.hosted e = some w' → ∃ e', w.host.step e' = some w'.host := by
    intro e w' hw
    obtain ⟨host, hstep, ⟨-, rfl⟩ | ⟨-, rfl⟩ | ⟨-, rfl⟩⟩ := World.hosted_cases hw
    · exact ⟨e, hstep⟩
    · exact ⟨e, hstep⟩
    · exact ⟨e, hstep⟩
  cases hm with
  | deliver hi hw =>
    obtain ⟨e', he'⟩ := hosted hw
    exact .inr ⟨e', he'⟩
  | host ha hw => exact .inr (hosted hw)
  | _ => exact .inl rfl

/-- So the runs of a world are runs of the service. -/
theorem World.host_run {l : List AppEvent} {w : World}
    (hrun : after World.step .initial l = some w) :
    ∃ l', after Host.step .initial l' = some w.host := by
  refine after_inv (I := fun w : World => ∃ l', after Host.step .initial l' = some w.host) hrun
    ⟨[], rfl⟩ fun w e w' hstep ⟨l', hl'⟩ => ?_
  rcases (World.moves hstep).host_step with heq | ⟨e', he'⟩
  · exact ⟨l', heq ▸ hl'⟩
  · exact ⟨l' ++ [e'], after_snoc.mpr ⟨w.host, hl', he'⟩⟩

theorem HostMoves.service_isSome {h h' : Host} {e : HostEvent} (hm : HostMoves h e h')
    (he : e ≠ .onDestroy) (hs : h.service.isSome = true) : h'.service.isSome = true := by
  cases hm with
  | onDestroy => exact absurd rfl he
  | onCreate | onStartCommand | onRevoke => rfl
  | callback | collectNothing | collect | unixConnect | system => exact hs

/-! ## What the app shows -/

namespace World

structure Wired (w : World) : Prop where
  value : w.states.value = w.host.system.manager.state
  attached : w.attached = true →
    w.app.bound = true ∧ w.host.service.isSome = true ∧ w.instances ∈ w.callbacks
  unbound : w.app.bound = false → ∃ error, w.app.state = ⟨.down none, .disconnected error⟩

theorem Wired.hosted {w w' : World} {e : HostEvent} (h : w.Wired) (hw : w.hosted e = some w') :
    w'.Wired := by
  obtain ⟨host, hstep, ⟨-, rfl⟩ | ⟨-, rfl⟩ | ⟨he, rfl⟩⟩ := hosted_cases hw
  · exact ⟨StateFlow.value_set _ _, nofun, h.unbound⟩
  · exact ⟨StateFlow.value_set _ _, nofun, h.unbound⟩
  · refine ⟨StateFlow.value_set _ _, fun ha => ?_, h.unbound⟩
    obtain ⟨hbound, hservice, hcallback⟩ := h.attached ha
    exact ⟨hbound, (Host.moves hstep).service_isSome he hservice, hcallback⟩

theorem Wired.step {w w' : World} {e : AppEvent} (h : w.Wired) (hm : WorldMoves w e w') :
    w'.Wired := by
  cases hm with
  | connect config hbound => exact ⟨h.value, fun ha => ⟨rfl, (h.attached ha).2⟩, nofun⟩
  | notBound config hbound => exact ⟨h.value, h.attached, fun _ => ⟨_, rfl⟩⟩
  | disconnect error => exact ⟨h.value, nofun, fun _ => ⟨error, rfl⟩⟩
  | update update => exact ⟨h.value, h.attached, h.unbound⟩
  | @onServiceConnected binder hbound hs =>
    obtain ⟨hservice, hbinder⟩ := Bool.and_eq_true_iff.mp hs
    refine ⟨h.value, fun _ => ⟨hbound, hservice, ?_⟩, fun hb => by cases hbound.symm.trans hb⟩
    rw [← eq_of_beq hbinder]
    exact Finset.mem_insert_self binder w.callbacks
  | onServiceConnectedLate hbound hs => exact ⟨h.value, nofun, fun _ => ⟨none, rfl⟩⟩
  | onServiceDisconnected => exact ⟨h.value, nofun, fun _ => ⟨none, rfl⟩⟩
  | onBindingDied => exact ⟨h.value, nofun, fun _ => ⟨none, rfl⟩⟩
  | collectNothing hr =>
    obtain ⟨rfl, -⟩ := StateFlow.resume_eq_some hr
    exact ⟨h.value, h.attached, h.unbound⟩
  | collect hr =>
    obtain ⟨rfl, -⟩ := StateFlow.resume_eq_some hr
    refine ⟨h.value, ?_, ?_⟩
    · intro ha
      refine ⟨?_, (h.attached ha).2⟩
      dsimp only
      split <;> exact (h.attached ha).1
    · dsimp only
      split
      · next hcond => exact fun hb => by cases (Bool.and_eq_true_iff.mp hcond).2.symm.trans hb
      · exact h.unbound
  | deliver hi hw =>
    have hwired := h.hosted hw
    exact ⟨hwired.value, hwired.attached, hwired.unbound⟩
  | host ha hw => exact h.hosted hw

/-- The flow of the manager's states and the copy that the app shows while it is attached. -/
def mirror (w : World) : Mirror VpnState :=
  ⟨w.states, if w.attached then some w.app.state else none, w.ahead⟩

theorem simulates_hosted {w w' : World} {e : HostEvent} (hw : w.hosted e = some w') :
    ∃ l, after Mirror.step w.mirror l = some w'.mirror := by
  obtain ⟨host, hstep, ⟨-, rfl⟩ | ⟨-, rfl⟩ | ⟨-, rfl⟩⟩ := hosted_cases hw
  · exact ⟨[.set host.system.manager.state, .drop, .launch], rfl⟩
  · exact ⟨[.set host.system.manager.state, .drop, .cancel], rfl⟩
  · exact ⟨[.set host.system.manager.state], rfl⟩

/-- **The app mirrors the manager's state.** -/
theorem simulates {w w' : World} {e : AppEvent} (hm : WorldMoves w e w') (h : w.Wired) :
    ∃ l, after Mirror.step w.mirror l = some w'.mirror := by
  cases hm with
  | connect config hbound => exact ⟨[], rfl⟩
  | notBound config hbound =>
    -- an app that is not bound is not attached
    have hunbound : w.app.bound = false := (Bool.or_eq_false_iff.mp hbound).1
    have hattached : w.attached = false := by
      by_contra ha
      cases hunbound.symm.trans (h.attached (by simpa using ha)).1
    exact ⟨[], by simp [after, mirror, hattached]⟩
  | disconnect error => exact ⟨[.drop], rfl⟩
  | update update => exact ⟨[], rfl⟩
  | onServiceConnected hbound hs => exact ⟨[.read], by simp [after, Mirror.step, mirror, h.value]⟩
  | onServiceConnectedLate hbound hs => exact ⟨[.read, .drop], rfl⟩
  | onServiceDisconnected => exact ⟨[.drop], rfl⟩
  | onBindingDied => exact ⟨[.drop], rfl⟩
  | collectNothing hr => exact ⟨[.resume], by simp [after, Mirror.step, mirror, hr]⟩
  | @collect state states hr =>
    refine ⟨[.resume], ?_⟩
    cases ha : w.attached with
    | false => simp [after, Mirror.step, mirror, hr, ha]
    | true =>
      obtain ⟨hbound, hservice, hcallback⟩ := h.attached ha
      simp [after, Mirror.step, mirror, hr, ha, serves, hbound, hservice, hcallback]
  | deliver hi hw =>
    obtain ⟨l, hl⟩ := simulates_hosted hw
    exact ⟨l, hl⟩
  | host ha hw => exact simulates_hosted hw

theorem wired_run {l : List AppEvent} {w : World} (hrun : after World.step .initial l = some w) :
    w.Wired ∧ w.mirror.Tracks := by
  refine after_inv (I := fun w : World => w.Wired ∧ w.mirror.Tracks) hrun
    ⟨⟨rfl, nofun, fun _ => ⟨none, rfl⟩⟩, Mirror.tracks_new _ true⟩ ?_
  rintro w e w' hstep ⟨hwired, htracks⟩
  have hm := World.moves hstep
  obtain ⟨l, hl⟩ := simulates hm hwired
  exact ⟨hwired.step hm, htracks.of_after hl⟩

end World

/-- **What the app shows.** While the app is attached to the service and the collector waits, it
shows the manager's state iff it did not take it over ahead of the collector, or the collector has
been given something since. -/
theorem app_state_agrees (l : List AppEvent) (w : World)
    (hrun : after World.step .initial l = some w) (hattached : w.attached = true)
    (hquiet : w.states.Quiet) :
    w.app.state = w.host.system.manager.state ↔ w.ahead = false := by
  obtain ⟨hwired, htracks⟩ := World.wired_run hrun
  rw [← hwired.value]
  exact htracks.copy_eq_value_iff hquiet (by simp [World.mirror, hattached])

/-- The app connects, the service is created, and both collectors run. -/
def connected : List AppEvent :=
  [.connect withoutAgent true, .host .onCreate, .collect, .onServiceConnected 1,
   .deliver ⟨.ok 3, ∅, 0⟩, .host (.system .act), .host (.system .act), .host .collect]

theorem after_connected :
    ∃ w, after World.step .initial connected = some w ∧ w.attached = true ∧ w.states.Quiet ∧
      (w.app.state = w.host.system.manager.state ↔ w.ahead = false) := by
  have hrun : (after World.step .initial connected).map (fun w =>
      (w.attached, decide w.states.Quiet)) = some (true, true) := by
    decide +kernel
  obtain ⟨w, hw, hp⟩ := Option.map_eq_some_iff.mp hrun
  have hattached : w.attached = true := congrArg Prod.fst hp
  have hquiet : w.states.Quiet := of_decide_eq_true (congrArg Prod.snd hp)
  exact ⟨w, hw, hattached, hquiet, app_state_agrees connected w hw hattached hquiet⟩

/-! ## After `disconnect` -/

def VpnAction.isConnect : VpnAction → Bool
  | .connect _ => true
  | _ => false

/-- The service is given nothing that opens a connection. -/
def HostEvent.opensNone : HostEvent → Prop
  | .onStartCommand (.vpnAction action) _ => action.isConnect = false
  | _ => True

/-- `onStartCommand` without `connect`, when there is no connection. -/
theorem perform_onStartCommand_none {m : Manager} (s : ProTunVpnService) (answers : Answers)
    (intent : Intent) (hnone : m.activeConnection = none)
    (hi : ∀ action, intent = .vpnAction action → action.isConnect = false) :
    (m.perform ((s.onStartCommand m answers intent).1.elim [] fun c =>
      c.actions m)).activeConnection = none := by
  cases intent with
  | restored | serviceInterface | other => exact hnone
  | vpnAction action =>
    cases action with
    | connect config => cases hi _ rfl
    | disconnect => exact (m.ended_clearConnection m _).active
    | update update =>
      simp only [ProTunVpnService.onStartCommand, hnone]
      exact hnone

/-- Without `connect` there is no connection where there was none. -/
theorem HostMoves.settled_none {h h' : Host} {e : HostEvent} (hm : HostMoves h e h')
    (he : e.opensNone) (hnone : h.system.settled.activeConnection = none) :
    h'.system.settled.activeConnection = none := by
  have hidle : h.system.main = [] → h.system.manager.activeConnection = none := fun hidle => by
    rwa [State.settled_of_idle hidle] at hnone
  have hsystem : ∀ {e system}, h.system.step e = some system → (∀ c, e ≠ .call c) →
      system.settled.activeConnection = none := by
    intro e system hstep hcall
    rcases State.settled_step hstep hcall with heq | ⟨hmain, t, hmanager, hactions⟩
    · rwa [heq]
    · obtain ⟨-, hactive, -⟩ :=
        h.system.manager.onProTunStateChange_outcome t.origin t.proTunState
      rw [State.settled, hmanager, hactions, hactive]
      exact hidle hmain
  cases hm with
  | callback | onCreate | collectNothing => exact hnone
  | @onStartCommand intent answers call service service' hmain hs hc =>
    have h := perform_onStartCommand_none service answers intent (hidle hmain)
      (by rintro action rfl; exact he)
    rw [hc] at h
    exact h
  | onRevoke hmain hs => exact (Manager.ended_clearConnection _ _ _).active
  | onDestroy hmain hs => exact (Manager.ended_clearConnection _ _ _).active
  | @collect v networks hmain hr =>
    obtain ⟨-, hnetworks, -⟩ := h.system.manager.onValidatedNetworks_outcome v
    rw [Manager.networks_eq_none_iff.mpr (hidle hmain)] at hnetworks
    exact Manager.networks_eq_none_iff.mp hnetworks
  | unixConnect hreads hstep => exact hsystem hstep (by simp)
  | system hcall hreads hstep => exact hsystem hstep hcall

namespace World

/-- The app is unbound, and a `disconnect` is on its way to the service or has been handled; nothing
sent after it connects. -/
structure Leaves (w : World) : Prop where
  unbound : w.app.bound = false
  sent : (∃ before after, w.intents = before ++ .disconnect :: after ∧
      ∀ a ∈ after, a.isConnect = false) ∨
    w.host.system.settled.activeConnection = none ∧ ∀ a ∈ w.intents, a.isConnect = false

/-- A step of the service that is given nothing to connect. -/
theorem settled_none_hosted {w w' : World} {e : HostEvent} (hw : w.hosted e = some w')
    (he : e.opensNone) (hnone : w.host.system.settled.activeConnection = none) :
    w'.host.system.settled.activeConnection = none := by
  obtain ⟨host, hstep, hcases⟩ := hosted_cases hw
  have h := (Host.moves hstep).settled_none he hnone
  obtain ⟨-, rfl⟩ | ⟨-, rfl⟩ | ⟨-, rfl⟩ := hcases <;> exact h

/-- The service is given the `disconnect`. -/
theorem settled_none_disconnect {w w' : World} {answers : Answers}
    (hw : w.hosted (.onStartCommand (.vpnAction .disconnect) answers) = some w') :
    w'.host.system.settled.activeConnection = none := by
  obtain ⟨host, hstep, ⟨⟨⟩, -⟩ | ⟨⟨⟩, -⟩ | ⟨-, rfl⟩⟩ := hosted_cases hw
  cases Host.moves hstep with
  | onStartCommand hmain hs hc =>
    cases hc
    exact (Manager.ended_clearConnection _ _ _).active

theorem hosted_same {w w' : World} {e : HostEvent} (hw : w.hosted e = some w') :
    w'.app = w.app ∧ w'.intents = w.intents := by
  obtain ⟨host, hstep, ⟨-, rfl⟩ | ⟨-, rfl⟩ | ⟨-, rfl⟩⟩ := hosted_cases hw <;> exact ⟨rfl, rfl⟩

theorem Leaves.deliver {w w' : World} {answers : Answers} {action : VpnAction}
    {intents : List VpnAction} (h : w.Leaves) (hi : w.intents = action :: intents)
    (hw : w.hosted (.onStartCommand (.vpnAction action) answers) = some w') :
    Leaves { w' with intents } := by
  refine ⟨(hosted_same hw).1 ▸ h.unbound, ?_⟩
  rcases h.sent with ⟨before, after, heq, hafter⟩ | ⟨hnone, hno⟩
  · rw [hi] at heq
    cases before with
    | nil =>
      obtain ⟨rfl, rfl⟩ := List.cons.inj heq
      have hnone := settled_none_disconnect hw
      exact .inr ⟨hnone, hafter⟩
    | cons b before =>
      obtain ⟨rfl, rfl⟩ := List.cons.inj heq
      exact .inl ⟨before, after, rfl, hafter⟩
  · rw [hi] at hno
    have ha : action.isConnect = false := hno action (by simp)
    have hnone' := settled_none_hosted hw ha hnone
    exact .inr ⟨hnone', fun a ha => hno a (by simp [ha])⟩

theorem Leaves.step {w w' : World} {e : AppEvent} (h : w.Leaves) (hm : WorldMoves w e w')
    (he : ∀ config bindService, e ≠ .connect config bindService) : w'.Leaves := by
  cases hm with
  | connect config hbound => exact absurd rfl (he config _)
  | notBound config hbound => exact absurd rfl (he config _)
  | disconnect error => exact ⟨rfl, .inl ⟨w.intents, [], rfl, by simp⟩⟩
  | update update =>
    refine ⟨h.unbound, ?_⟩
    rcases h.sent with ⟨before, after, heq, hafter⟩ | ⟨hnone, hno⟩
    · refine .inl ⟨before, after ++ [.update update], by simp [heq], fun a ha => ?_⟩
      rcases List.mem_append.mp ha with ha | ha
      · exact hafter a ha
      · obtain rfl := List.mem_singleton.mp ha
        rfl
    · refine .inr ⟨hnone, fun a ha => ?_⟩
      rcases List.mem_append.mp ha with ha | ha
      · exact hno a ha
      · obtain rfl := List.mem_singleton.mp ha
        rfl
  | onServiceConnected hbound hs => cases h.unbound.symm.trans hbound
  | onServiceConnectedLate hbound hs => cases h.unbound.symm.trans hbound
  | onServiceDisconnected => exact ⟨h.unbound, h.sent⟩
  | onBindingDied => exact ⟨rfl, h.sent⟩
  | collectNothing hr => exact ⟨h.unbound, h.sent⟩
  | collect hr =>
    refine ⟨?_, h.sent⟩
    dsimp only
    split <;> exact h.unbound
  | deliver hi hw => exact h.deliver hi hw
  | @host e w' ha hw =>
    obtain ⟨happ, hintents⟩ := hosted_same hw
    refine ⟨happ ▸ h.unbound, ?_⟩
    rw [hintents]
    rcases h.sent with hsent | ⟨hnone, hno⟩
    · exact .inl hsent
    · refine .inr ⟨settled_none_hosted hw ?_ hnone, hno⟩
      unfold HostEvent.opensNone
      split
      · cases ha
      · trivial

theorem leaves_disconnect {w w' : World} {error : Option VpnDisconnectError}
    (h : w.step (.disconnect error) = some w') : w'.Leaves := by
  cases World.moves h with
  | disconnect => exact ⟨rfl, .inl ⟨w.intents, [], rfl, by simp⟩⟩

/-- **After `disconnect`** the app shows that it is disconnected; and once the service has been
given what was sent and its turn is complete, no connection is active and every native thread has
ended. -/
theorem Leaves.left {w : World} {l : List AppEvent} (h : w.Leaves)
    (hrun : after World.step .initial l = some w) :
    (∃ error, w.app.state = ⟨.down none, .disconnected error⟩) ∧
    (w.intents = [] → w.host.system.main = [] →
      w.host.system.manager.activeConnection = none ∧
      ∀ i, (w.host.system.natives i).thread = .ended) := by
  refine ⟨(World.wired_run hrun).1.unbound h.unbound, fun hintents hidle => ?_⟩
  have hnone : w.host.system.manager.activeConnection = none := by
    rcases h.sent with ⟨before, after, heq, -⟩ | ⟨hnone, -⟩
    · rw [hintents] at heq
      cases before <;> cases heq
    · rwa [State.settled_of_idle hidle] at hnone
  obtain ⟨l', hl'⟩ := World.host_run hrun
  exact ⟨hnone, Host.ended_of_idle hl' hidle hnone⟩

end World

end Protun.Android
