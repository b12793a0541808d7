import Protun.Android.Service

/-!
# The code of the service, one access at a time

`Turn.actions` decides a whole turn from the manager of its start. That is what the code does as
long as nobody else touches the manager. `Code` is the same code with its reads in place: where the
source reads `activeConnection` it continues with whatever stands there then, so that two threads
can run such code side by side.

* The methods of `ConnectionManager`, the callbacks of `ProTunVpnService` and the calls of the
  instance itself (`startForeground`, `stopForeground`, `stopSelf`), in the order of the source. An
  access is atomic, and the threads see each other's accesses in one order.
* `Code.actions`, `Code.finish`: what code does to the manager and to the instance when it is run
  from the beginning to the end with nothing in between.
* `Code.actions_…`: then it does the actions of its turn.
-/

namespace Protun.Android

/-- A call of the instance of the service, or the end of its callback. -/
inductive ServiceCall where
  | startForeground
  | stopForeground
  | stopSelf
  /-- `onStartCommand` returns. -/
  | returns (sticky : Bool)
  /-- `binder?.weakService?.clear()`: the instance cannot be reached any more. -/
  | clearWeakService

def ServiceCall.apply (service : Option ProTunVpnService) :
    ServiceCall → Option ProTunVpnService
  | .startForeground => service.map ({ · with foreground := true })
  | .stopForeground => service.map ({ · with foreground := false })
  | .stopSelf => service.map ({ · with stopped := true })
  | .returns sticky => service.map ({ · with sticky })
  | .clearWeakService => none

/-- What a thread has left to do. -/
inductive Code (α : Type) where
  | done (a : α)
  /-- `activeConnection` is read. -/
  | read (next : Option ActiveConnection → Code α)
  | act (a : Action) (ha : opens [a] = false) (next : Code α)
  /-- `unixConnect`, and then what it has returned is assigned to `activeConnection`: it is `active`
  with the number of the connection. -/
  | unixConnect (config : InitialConnectionConfig) (tunFd : ParcelFileDescriptor)
      (active : ActiveConnection) (next : Code α)
  | call (c : ServiceCall) (next : Code α)

namespace Code

variable {α β : Type}

def bind : Code α → (α → Code β) → Code β
  | done a, f => f a
  | read next, f => read fun active => (next active).bind f
  | act a ha next, f => act a ha (next.bind f)
  | unixConnect config tunFd active next, f => unixConnect config tunFd active (next.bind f)
  | call c next, f => call c (next.bind f)

instance : Monad Code where
  pure := done
  bind := bind

def isDone : Code α → Bool
  | done _ => true
  | _ => false

/-- An action, and nothing else. -/
def perform (a : Action) (ha : opens [a] = false := by rfl) : Code Unit := act a ha (done ())

def serviceCall (c : ServiceCall) : Code Unit := call c (done ())

/-- `activeConnection?.…`. -/
def onActive (f : ActiveConnection → Code Unit) : Code Unit :=
  read fun
    | none => done ()
    | some active => f active

/-! ## The manager -/

/-- `activeConnection?.connection?.…`. -/
def request (r : Request) : Code Unit :=
  onActive fun active => perform (.request active.connection r)

/-- `ActiveConnection.clear`. -/
def clear (active : ActiveConnection) : Code Unit := do
  perform (.clearCallback active.connection)
  perform (.request active.connection .disconnectAndWait)
  perform (.join active.connection)

/-- `clearConnection`. -/
def clearConnection (endState : VpnConnectionState) : Code Unit := do
  onActive clear
  perform (.setActive none)
  perform (.setState ⟨.down none, endState⟩)

/-- `setPacketCaptureEnabled`. -/
def setPacketCaptureEnabled : Option PacketCaptureInfo → Code Unit
  | none => request .stopPacketCapture
  | some info => request (.startPacketCapture info.toUniFFI)

/-- The branch of `connect` that updates the active connection instead of restarting it. -/
def reconfigure (current config : InitialConfig) (settings : LocalAgentSettings)
    (answers : Answers) : Code Unit :=
  -- `activeConnection = activeConnection?.copy(currentConfig = config)`
  read fun active => do
    perform (.setActive (active.map ({ · with currentConfig := config })))
    match Manager.interfaceUpdate current config answers with
    | .error reason => clearConnection (.disconnected (some reason))
    | .ok tun => do
      request (.update (some config.peers) (some settings) tun)
      if current.packetCaptureInfo ≠ config.packetCaptureInfo then
        setPacketCaptureEnabled config.packetCaptureInfo

/-- The end of `connect`, which starts a native connection. -/
def start (config : InitialConfig) (answers : Answers) : Code Unit :=
  match answers.establish config.interfaceConfig with
  | .error reason => perform (.setState (.disconnectedWith reason))
  | .ok tunFd =>
    unixConnect
      { peers := config.peers
        networkAvailable := decide answers.validatedNetworks.Nonempty
        pcapFile := config.packetCaptureInfo.map PacketCaptureInfo.toUniFFI
        connectionMode := config.mode } tunFd
      { connection := 0
        currentConfig := config
        validatedNetworks := answers.validatedNetworks
        startedAt := answers.wallClockMs } (done ())

/-- `connect`. -/
def connect (config : InitialConfig) (answers : Answers) : Code Unit :=
  read fun
    | none => start config answers
    | some active =>
      match localAgentSettings active.currentConfig.mode, localAgentSettings config.mode with
      | some _, some settings => reconfigure active.currentConfig config settings answers
      | _, _ => do
        clearConnection (.connecting [] [])
        start config answers

/-- `updateInterfaceConfig`. -/
def updateInterfaceConfig (interfaceConfig : InterfaceConfig) (answers : Answers) : Code Unit :=
  onActive fun ongoing =>
    match answers.establish interfaceConfig with
    | .error reason => clearConnection (.disconnected (some reason))
    | .ok newTunFd => perform (.request ongoing.connection (.updateUnixTun newTunFd))

/-- The collector that `init` starts. -/
def onValidatedNetworks (validatedNetworks : Finset Network) : Code Unit :=
  onActive fun active =>
    if active.validatedNetworks ≠ validatedNetworks then do
      perform (.setActive (some { active with validatedNetworks := validatedNetworks }))
      perform (.request active.connection (.onConnectivityChange
        (Manager.connectivityEvent active.validatedNetworks validatedNetworks)))
    else done ()

/-- The task that `onProTunStateChange` launches. -/
def onProTunStateChange (t : Task) : Code Unit :=
  onActive fun active =>
    perform (.publish t.origin
      ⟨t.proTunState.interfaceState, stateToCoreApi active.startedAt t.proTunState.connectionState⟩)

/-! ## The service -/

/-- The call of the manager for an update. -/
def update (answers : Answers) : Update → Code Unit
  | .interfaceConfig config => updateInterfaceConfig config answers
  | .peers list => request (.updatePeers list)
  | .packetCapture info => setPacketCaptureEnabled info
  | .settings value => request (.updateLocalAgentSettings value)
  | .apiSelector selector => request (.provideApiForkSelector selector)
  | .requestConnectionStats => request .requestStats
  | .requestLocalAgentStats => request .requestLocalAgentStats

/-- `stopForeground` and `stopSelf`. -/
def stop : Code Unit := do
  serviceCall .stopForeground
  serviceCall .stopSelf

/-- `onStartCommand`. -/
def onStartCommand (answers : Answers) : Intent → Code Unit
  | .restored | .serviceInterface | .other _ => serviceCall (.returns false)
  | .vpnAction action => do
    serviceCall .startForeground
    match action with
    | .connect config => do
      connect config answers
      serviceCall (.returns true)
    | .disconnect => do
      clearConnection (.disconnected none)
      stop
      serviceCall (.returns false)
    | .update update =>
      read fun
        | some _ => do
          Code.update answers update
          serviceCall (.returns true)
        | none => do
          stop
          serviceCall (.returns false)

/-- `onRevoke`. -/
def onRevoke : Code Unit := do
  clearConnection (.disconnected (some .serviceRevoked))
  stop

/-- `onDestroy`. -/
def onDestroy : Code Unit := do
  clearConnection (.disconnected none)
  serviceCall .stopForeground
  serviceCall .clearWeakService

/-! ## Code that is run alone -/

/-- The actions, when the manager is `m` at the beginning. -/
def actions : Code α → Manager → List Action
  | done _, _ => []
  | read next, m => (next m.activeConnection).actions m
  | act a _ next, m => a :: next.actions (m.act a)
  | unixConnect config tunFd active next, m =>
    let opened := [.unixConnect config tunFd,
      .setActive (some { active with connection := m.connections.length })]
    opened ++ next.actions (m.perform opened)
  | call _ next, m => next.actions m

/-- What is returned. -/
def result : Code α → Manager → α
  | done a, _ => a
  | read next, m => (next m.activeConnection).result m
  | act a _ next, m => next.result (m.act a)
  | unixConnect config tunFd active next, m =>
    next.result (m.perform [.unixConnect config tunFd,
      .setActive (some { active with connection := m.connections.length })])
  | call _ next, m => next.result m

/-- The instance at the end. -/
def finish : Code α → Manager → Option ProTunVpnService → Option ProTunVpnService
  | done _, _, service => service
  | read next, m, service => (next m.activeConnection).finish m service
  | act a _ next, m, service => next.finish (m.act a) service
  | unixConnect config tunFd active next, m, service =>
    next.finish (m.perform [.unixConnect config tunFd,
      .setActive (some { active with connection := m.connections.length })]) service
  | call c next, m, service => next.finish m (c.apply service)

section Alone

variable (x : Code α) (f : α → Code β) (m : Manager) (service : Option ProTunVpnService)

@[simp] theorem actions_bind :
    (x >>= f).actions m =
      x.actions m ++ (f (x.result m)).actions (m.perform (x.actions m)) := by
  change (x.bind f).actions m = _
  induction x generalizing m with
  | done a => rfl
  | read next ih => exact ih _ m
  | act a ha next ih => exact congrArg (a :: ·) (ih (m.act a))
  | unixConnect config tunFd active next ih =>
    simp only [bind, actions, result, ih, Manager.perform, List.foldl_append, List.append_assoc]
  | call c next ih => exact ih m

@[simp] theorem finish_bind :
    (x >>= f).finish m service =
      (f (x.result m)).finish (m.perform (x.actions m)) (x.finish m service) := by
  change (x.bind f).finish m service = _
  induction x generalizing m service with
  | done a => rfl
  | read next ih => exact ih _ m service
  | act a ha next ih => exact ih (m.act a) service
  | unixConnect config tunFd active next ih =>
    simp only [bind, actions, result, finish, ih, Manager.perform, List.foldl_append]
  | call c next ih => exact ih m _

end Alone

/-- Run alone, `x` does the actions `l` and leaves the instance as it is. -/
structure Does (x : Code Unit) (m : Manager) (l : List Action) : Prop where
  actions : x.actions m = l
  finish : ∀ service, x.finish m service = service

section Does

variable {x : Code Unit} {f : Unit → Code Unit} {m : Manager} {l l' : List Action}

theorem does_done (m : Manager) : (done ()).Does m [] := ⟨rfl, fun _ => rfl⟩

theorem does_perform (a : Action) (ha : opens [a] = false) (m : Manager) :
    (perform a ha).Does m [a] :=
  ⟨rfl, fun _ => rfl⟩

theorem Does.bind (hx : x.Does m l) (hf : (f ()).Does (m.perform l) l') :
    (x >>= f).Does m (l ++ l') where
  actions := by rw [actions_bind, hx.actions, hf.actions]
  finish service := by rw [finish_bind, hx.actions, hx.finish, hf.finish]

/-- A read is a case split. -/
theorem does_read {next : Option ActiveConnection → Code Unit}
    (h : (next m.activeConnection).Does m l) : (read next).Does m l :=
  ⟨h.actions, h.finish⟩

theorem does_request (r : Request) (m : Manager) : (request r).Does m (m.onActive r) := by
  refine does_read ?_
  unfold Manager.onActive
  cases m.activeConnection with
  | none => exact does_done m
  | some active => exact does_perform _ rfl m

theorem does_clear (active : ActiveConnection) (m : Manager) : (clear active).Does m active.clear :=
  (does_perform _ rfl m).bind ((does_perform _ rfl _).bind (does_perform _ rfl _))

theorem does_clearConnection (endState : VpnConnectionState) (m : Manager) :
    (clearConnection endState).Does m (m.clearConnection endState) := by
  refine Does.bind ?_ ((does_perform _ rfl _).bind (does_perform _ rfl _))
  refine does_read ?_
  cases m.activeConnection with
  | none => exact does_done m
  | some active => exact does_clear active m

theorem does_setPacketCaptureEnabled (info : Option PacketCaptureInfo) (m : Manager) :
    (setPacketCaptureEnabled info).Does m (m.setPacketCaptureEnabled info) := by
  cases info with
  | none => exact does_request _ m
  | some info => exact does_request _ m

theorem does_start (config : InitialConfig) (answers : Answers) (m : Manager) :
    (start config answers).Does m (m.start config answers) := by
  unfold start Manager.start
  cases answers.establish config.interfaceConfig with
  | error reason => exact does_perform _ rfl m
  | ok tunFd => exact ⟨rfl, fun _ => rfl⟩

/-- `m'` has the connection of `m`, or none like it. -/
def SameActive (m m' : Manager) : Prop :=
  m'.activeConnection.map ActiveConnection.connection =
    m.activeConnection.map ActiveConnection.connection

theorem SameActive.onActive {m' : Manager} (h : SameActive m m') (r : Request) :
    m'.onActive r = m.onActive r := by
  unfold SameActive at h
  unfold Manager.onActive
  cases hm : m.activeConnection <;> cases hm' : m'.activeConnection <;> simp_all

theorem SameActive.clearConnection {m' : Manager} (h : SameActive m m')
    (endState : VpnConnectionState) : m'.clearConnection endState = m.clearConnection endState := by
  unfold SameActive at h
  unfold Manager.clearConnection ActiveConnection.clear
  cases hm : m.activeConnection <;> cases hm' : m'.activeConnection <;> simp_all

theorem SameActive.setPacketCaptureEnabled {m' : Manager} (h : SameActive m m')
    (info : Option PacketCaptureInfo) :
    m'.setPacketCaptureEnabled info = m.setPacketCaptureEnabled info := by
  rw [Manager.setPacketCaptureEnabled_eq, Manager.setPacketCaptureEnabled_eq, h.onActive]

theorem sameActive_onActive (m : Manager) (r : Request) :
    SameActive m (m.perform (m.onActive r)) := by
  unfold Manager.onActive
  split <;> exact rfl

/-- `connect` looks at the active connection again after it has changed its configuration, and finds
the same one. -/
theorem does_reconfigure {active : ActiveConnection} (hactive : m.activeConnection = some active)
    (config : InitialConfig) (settings : LocalAgentSettings) (answers : Answers) :
    (reconfigure active.currentConfig config settings answers).Does m
      (m.reconfigure active config settings answers) := by
  refine does_read ?_
  rw [hactive]
  refine Does.bind (does_perform _ rfl m) ?_
  have hsame : SameActive m
      (m.perform [.setActive (some { active with currentConfig := config })]) := by
    rw [SameActive, hactive]
    rfl
  cases Manager.interfaceUpdate active.currentConfig config answers with
  | error reason =>
    dsimp only
    rw [← hsame.clearConnection]
    exact does_clearConnection _ _
  | ok tun =>
    dsimp only
    rw [← hsame.onActive]
    refine Does.bind (does_request _ _) ?_
    split
    · rw [← hsame.setPacketCaptureEnabled, ← (sameActive_onActive _ _).setPacketCaptureEnabled]
      exact does_setPacketCaptureEnabled _ _
    · exact does_done _

theorem does_connect (config : InitialConfig) (answers : Answers) (m : Manager) :
    (connect config answers).Does m (m.connect config answers) := by
  refine does_read ?_
  unfold Manager.connect
  cases hactive : m.activeConnection with
  | none => exact does_start config answers m
  | some active =>
    have hrestart : (do clearConnection (.connecting [] []); start config answers).Does m
        (m.clearConnection (.connecting [] []) ++ m.start config answers) := by
      refine (does_clearConnection _ m).bind ?_
      have hstart := does_start config answers (m.perform (m.clearConnection (.connecting [] [])))
      rwa [Manager.start, Manager.clearConnection_connections_length] at hstart
    dsimp only
    cases localAgentSettings active.currentConfig.mode with
    | none => exact hrestart
    | some _ =>
      cases localAgentSettings config.mode with
      | none => exact hrestart
      | some settings => exact does_reconfigure hactive config settings answers

theorem does_updateInterfaceConfig (config : InterfaceConfig) (answers : Answers) (m : Manager) :
    (updateInterfaceConfig config answers).Does m (m.updateInterfaceConfig config answers) := by
  refine does_read ?_
  unfold Manager.updateInterfaceConfig
  cases m.activeConnection with
  | none => exact does_done m
  | some ongoing =>
    dsimp only
    cases answers.establish config with
    | error reason => exact does_clearConnection _ m
    | ok newTunFd => exact does_perform _ rfl m

theorem does_onValidatedNetworks (v : Finset Network) (m : Manager) :
    (onValidatedNetworks v).Does m (m.onValidatedNetworks v) := by
  refine does_read ?_
  unfold Manager.onValidatedNetworks
  cases m.activeConnection with
  | none => exact does_done m
  | some active =>
    dsimp only
    split
    · exact (does_perform _ rfl m).bind (does_perform _ rfl _)
    · exact does_done m

theorem does_onProTunStateChange (t : Task) (m : Manager) :
    (onProTunStateChange t).Does m (m.onProTunStateChange t.origin t.proTunState) := by
  refine does_read ?_
  unfold Manager.onProTunStateChange
  cases m.activeConnection with
  | none => exact does_done m
  | some active => exact does_perform _ rfl m

theorem does_update (answers : Answers) (u : Update) (m : Manager) :
    (update answers u).Does m ((u.call answers).actions m) := by
  cases u with
  | interfaceConfig config => exact does_updateInterfaceConfig config answers m
  | packetCapture info => exact does_setPacketCaptureEnabled info m
  | peers | settings | apiSelector | requestConnectionStats | requestLocalAgentStats =>
    exact does_request _ m

end Does

/-! The callbacks of the service. -/

@[simp] theorem actions_serviceCall (c : ServiceCall) (m : Manager) :
    (serviceCall c).actions m = [] := rfl

@[simp] theorem finish_serviceCall (c : ServiceCall) (m : Manager)
    (service : Option ProTunVpnService) : (serviceCall c).finish m service = c.apply service := rfl

@[simp] theorem actions_stop (m : Manager) : stop.actions m = [] := rfl

@[simp] theorem finish_stop (m : Manager) (s : ProTunVpnService) :
    stop.finish m (some s) = some s.stop := rfl

section Service

variable (m : Manager) (s : ProTunVpnService)

/-- Run alone, `onStartCommand` is the turn of its call, and the instance ends as it should. -/
theorem onStartCommand_alone (answers : Answers) (intent : Intent) :
    (onStartCommand answers intent).actions m =
        ((s.onStartCommand m answers intent).1.elim [] fun c => c.actions m) ∧
      (onStartCommand answers intent).finish m (some s) =
        some (s.onStartCommand m answers intent).2 := by
  cases intent with
  | restored | serviceInterface | other => exact ⟨rfl, rfl⟩
  | vpnAction action =>
    cases action with
    | connect config =>
      have hdoes := does_connect config answers m
      simp [onStartCommand, hdoes.actions, hdoes.finish, ProTunVpnService.onStartCommand,
        Call.actions, ServiceCall.apply, Manager.perform]
    | disconnect =>
      have hdoes := does_clearConnection (.disconnected none) m
      simp [onStartCommand, hdoes.actions, hdoes.finish, ProTunVpnService.onStartCommand,
        Call.actions, ServiceCall.apply, Manager.perform]
    | update update =>
      have hdoes := does_update answers update m
      cases hactive : m.activeConnection with
      | none =>
        simp [onStartCommand, actions, finish, ProTunVpnService.onStartCommand,
          ServiceCall.apply, Manager.perform, hactive]
      | some active =>
        simp [onStartCommand, actions, finish, hdoes.actions, hdoes.finish,
          ProTunVpnService.onStartCommand, ServiceCall.apply, Manager.perform, hactive]

theorem onRevoke_alone :
    onRevoke.actions m = m.clearConnection (.disconnected (some .serviceRevoked)) ∧
      onRevoke.finish m (some s) = some s.stop := by
  have hdoes := does_clearConnection (.disconnected (some .serviceRevoked)) m
  simp [onRevoke, hdoes.actions, hdoes.finish]

theorem onDestroy_alone (service : Option ProTunVpnService) :
    onDestroy.actions m = m.clearConnection (.disconnected none) ∧
      onDestroy.finish m service = none := by
  have hdoes := does_clearConnection (.disconnected none) m
  simp [onDestroy, hdoes.actions, hdoes.finish, ServiceCall.apply]

end Service


end Code

end Protun.Android
