import Protun.Android.Config
import Protun.Android.Networks
import Protun.Connection.Asked
import Protun.Connection.Script

/-!
# What the app wishes for

The app names peers and settings in `connect`, `updatePeers`, `updateLocalAgentSettings` and
`update`. They reach the client of a native connection by two stages that each leave something out:
the manager sends an update, or starts another connection, or drops the call when none is active;
the connection loop reads the messages one at a time and tells the client of differences.

* `wished`: what the turns so far ask for, as if there were nothing in between.
* `Connection.asked`: what the requests of a native connection ask for.
* `reflects_run`: after any turns the active connection has been asked for what is wished, and every
  connection was at any time asked for what had been wished at some earlier time.
* **`wishes_in_force`**: so the client of any native connection always has the peers and the
  settings that the app wished for at one moment, never those of two, and with all requests read
  the client of the active one has the latest.
-/

namespace Protun.Android

open Trace

/-- What `start_pvpn_connection` makes the connection from. -/
def InitialConnectionConfig.initial (config : InitialConnectionConfig) : Protun.InitialConfig where
  peers := config.peers
  networkAvailable := config.networkAvailable
  pcapFile := config.pcapFile
  localAgentSettings := localAgentSettings config.connectionMode

/-- The message a request sends. -/
def Request.message (r : Request) : PvpnMessage := r.toApi.message

/-- The request names neither peers nor settings. -/
def Request.Quiet (r : Request) : Prop := ∀ a : Asked, a.hear r.message = a

/-- What a native connection is asked for with `requests`. -/
def Connection.asked (c : Connection) (requests : List Request) : Asked :=
  c.config.initial.asked (requests.map Request.message)

theorem Connection.asked_concat (c : Connection) (requests : List Request) (r : Request) :
    c.asked (requests ++ [r]) = (c.asked requests).hear r.message := by
  simp [asked, Protun.InitialConfig.asked]

/-- What is wished for after a turn. -/
def Turn.wish (w : Option Asked) : Turn → Option Asked
  | .call (.connect config _) => some ⟨config.peers, localAgentSettings config.mode⟩
  | .call (.clearConnection _) => none
  | .call (.updatePeers peers) => w.map (·.name (some peers) none)
  | .call (.updateLocalAgentSettings settings) => w.map (·.name none (some settings))
  | .call (.update peers settings _) => w.map (·.name peers settings)
  | _ => w

/-- What the turns so far wish for. -/
def wished (turns : List Turn) : Option Asked := turns.foldl Turn.wish none

theorem wished_concat (turns : List Turn) (t : Turn) :
    wished (turns ++ [t]) = t.wish (wished turns) :=
  List.foldl_concat ..

/-! ## Earlier wishes -/

/-- Whatever part of its requests a connection has read, it is asked for what was wished at some
time. -/
def Connection.Dated (turns : List Turn) (c : Connection) : Prop :=
  ∀ requests, requests <+: c.requests →
    ∃ sofar, sofar <+: turns ∧ wished sofar = some (c.asked requests)

theorem Connection.Dated.record {turns : List Turn} {c : Connection} {r : Request}
    (h : c.Dated turns)
    (hr : ∃ sofar, sofar <+: turns ∧ wished sofar = some ((c.asked c.requests).hear r.message)) :
    (c.record r).Dated turns := by
  intro requests hrequests
  obtain rfl | hrequests := List.prefix_concat_iff.mp hrequests
  · obtain ⟨sofar, hsofar, hwish⟩ := hr
    exact ⟨sofar, hsofar, hwish.trans (congrArg some (c.asked_concat _ r).symm)⟩
  · exact h requests hrequests

theorem Connection.Dated.record_quiet {turns : List Turn} {c : Connection} {r : Request}
    (h : c.Dated turns) (hr : r.Quiet) : (c.record r).Dated turns := by
  refine h.record ?_
  rw [hr]
  exact h c.requests (List.prefix_refl _)

/-- All native connections are. -/
def Manager.Dated (turns : List Turn) (m : Manager) : Prop :=
  ∀ native ∈ m.connections, native.Dated turns

/-- The action opens no connection and sends no update of peers or settings. -/
def Action.Quiet : Action → Prop
  | .request _ r => r.Quiet
  | .unixConnect _ _ => False
  | _ => True

namespace Manager

variable {m : Manager} {turns turns' : List Turn}

theorem Dated.mono (h : m.Dated turns) (hle : turns <+: turns') : m.Dated turns' := by
  intro native hnative requests hrequests
  obtain ⟨sofar, hsofar, hwish⟩ := h native hnative requests hrequests
  exact ⟨sofar, hsofar.trans hle, hwish⟩

/-- A request of one connection. -/
theorem Dated.request (h : m.Dated turns) {connection : Nat} {r : Request}
    (hr : ∀ native, m.connections[connection]? = some native → (native.record r).Dated turns) :
    (m.act (.request connection r)).Dated turns := by
  intro native hnative
  obtain ⟨k, hk⟩ := List.mem_iff_getElem?.mp hnative
  rw [act, List.getElem?_modify] at hk
  split at hk
  · next heq =>
    obtain ⟨native', hnative', rfl⟩ := Option.map_eq_some_iff.mp hk
    exact hr native' (heq ▸ hnative')
  · simp only [Option.map_eq_map, Option.map_id'] at hk
    exact h native (List.mem_of_getElem? hk)

theorem Dated.act (h : m.Dated turns) {a : Action} (ha : a.Quiet) : (m.act a).Dated turns := by
  cases a with
  | request connection r =>
    exact h.request fun native hnative => (h native (List.mem_of_getElem? hnative)).record_quiet ha
  | unixConnect config tunFd => exact ha.elim
  | setActive | setState | publish | clearCallback | join => exact h

theorem Dated.perform (h : m.Dated turns) {actions : List Action} (ha : ∀ a ∈ actions, a.Quiet) :
    (m.perform actions).Dated turns := by
  induction actions generalizing m with
  | nil => exact h
  | cons a actions ih =>
    exact ih (h.act (ha a List.mem_cons_self)) fun b hb => ha b (List.mem_cons_of_mem a hb)

theorem quiet_clearConnection (m : Manager) (endState : VpnConnectionState) :
    ∀ a ∈ m.clearConnection endState, a.Quiet := by
  unfold clearConnection
  rw [List.forall_mem_append]
  refine ⟨?_, by simp [Action.Quiet]⟩
  cases m.activeConnection with
  | none => simp
  | some active =>
    have hdisconnect : Request.Quiet .disconnectAndWait := fun _ => rfl
    simp [ActiveConnection.clear, Action.Quiet, hdisconnect]

/-! ## The present wish -/

/-- After the turns `turns`: the active connection is asked for what is wished, in the mode that
`currentConfig` says, and the others for what was. -/
structure Reflects (turns : List Turn) (m : Manager) : Prop where
  dated : m.Dated turns
  current : ∀ active, m.activeConnection = some active → ∃ native,
    m.connections[active.connection]? = some native ∧
    wished turns = some (native.asked native.requests) ∧
    (localAgentSettings active.currentConfig.mode).isSome =
      (native.asked native.requests).settings.isSome

theorem Reflects.of_none (h : m.Dated turns) (hnone : m.activeConnection = none) :
    m.Reflects turns where
  dated := h
  current active ha := by cases hnone.symm.trans ha

/-- A request of the active connection, which may be all or a part of a turn. -/
theorem Reflects.request (h : m.Reflects turns) {active : ActiveConnection} {connection : Nat}
    {r : Request} (ha : m.activeConnection = some active)
    (hconnection : active.connection = connection) (hle : turns <+: turns')
    (hwish : ∀ w, wished turns = some w → wished turns' = some (w.hear r.message)) :
    (m.act (.request connection r)).Reflects turns' := by
  subst hconnection
  obtain ⟨native, hnative, hw, hagent⟩ := h.current active ha
  refine ⟨(h.dated.mono hle).request fun native' hnative' => ?_, fun active' ha' => ?_⟩
  · cases hnative.symm.trans hnative'
    refine ((h.dated.mono hle) native (List.mem_of_getElem? hnative)).record ?_
    exact ⟨turns', List.prefix_refl _, hwish _ hw⟩
  · cases ha.symm.trans ha'
    refine ⟨native.record r, by simp [Manager.act, hnative], ?_, ?_⟩
    · exact (hwish _ hw).trans (congrArg some (native.asked_concat _ r).symm)
    · refine hagent.trans ((Asked.hear_isSome_settings _ r.message).symm.trans ?_)
      exact congrArg (·.settings.isSome) (native.asked_concat _ r).symm

theorem Reflects.setActive (h : m.Reflects turns) {active active' : ActiveConnection}
    (ha : m.activeConnection = some active) (hconnection : active'.connection = active.connection)
    (hmode : (localAgentSettings active'.currentConfig.mode).isSome =
      (localAgentSettings active.currentConfig.mode).isSome) :
    (m.act (.setActive (some active'))).Reflects turns where
  dated := h.dated
  current := by
    rintro _ ⟨⟩
    obtain ⟨native, hnative, hw, hagent⟩ := h.current active ha
    exact ⟨native, hconnection ▸ hnative, hw, hmode.trans hagent⟩

/-! ## One turn -/

/-- A turn that does nothing here. -/
theorem Reflects.idle (h : m.Reflects turns) {t : Turn}
    (hwish : t.wish (wished turns) = wished turns) : m.Reflects (turns ++ [t]) where
  dated := h.dated.mono (List.prefix_append _ _)
  current := by
    rw [wished_concat, hwish]
    exact h.current

/-- A turn that consists of a request of the active connection. -/
theorem Reflects.onActive (h : m.Reflects turns) {t : Turn} {r : Request}
    (hwish : ∀ w, t.wish (some w) = some (w.hear r.message)) :
    (m.perform (m.onActive r)).Reflects (turns ++ [t]) := by
  unfold Manager.onActive
  cases ha : m.activeConnection with
  | none => exact .of_none (h.dated.mono (List.prefix_append _ _)) ha
  | some active =>
    refine h.request ha rfl (List.prefix_append _ _) fun w hw => ?_
    rw [wished_concat, hw, hwish]

theorem Reflects.clearConnection (h : m.Dated turns) (m' : Manager)
    (endState : VpnConnectionState) :
    (m.perform (m'.clearConnection endState)).Reflects turns :=
  .of_none (h.perform (quiet_clearConnection m' endState))
    (clearConnection_activeConnection m' m endState)

/-- A connection is opened with what is wished. -/
theorem Reflects.start {m' : Manager} {config : InitialConfig} (h : m'.Dated turns)
    (hnone : m'.activeConnection = none) (hlength : m'.connections.length = m.connections.length)
    (hwish : wished turns = some ⟨config.peers, localAgentSettings config.mode⟩)
    (answers : Answers) : (m'.perform (m.start config answers)).Reflects turns := by
  unfold Manager.start
  cases answers.establish config.interfaceConfig with
  | error reason => exact .of_none h hnone
  | ok tunFd =>
    dsimp only [perform_cons, perform_nil, Manager.act]
    refine ⟨fun native hnative => ?_, ?_⟩
    · rcases List.mem_append.mp hnative with hnative | hnative
      · exact h native hnative
      · obtain rfl := List.mem_singleton.mp hnative
        intro requests hrequests
        obtain rfl := List.prefix_nil.mp hrequests
        exact ⟨turns, List.prefix_refl _, hwish⟩
    · rintro _ ⟨⟩
      refine ⟨_, hlength ▸ List.getElem?_concat_length, ?_, ?_⟩
      · exact hwish
      · rfl

/-- `connect` updates the active connection. -/
theorem Reflects.reconfigure (h : m.Reflects turns) {t : Turn} {active : ActiveConnection}
    {config : InitialConfig} {settings : LocalAgentSettings}
    (ha : m.activeConnection = some active)
    (hcurrent : (localAgentSettings active.currentConfig.mode).isSome = true)
    (hnew : localAgentSettings config.mode = some settings)
    (hwish : wished (turns ++ [t]) = some ⟨config.peers, localAgentSettings config.mode⟩)
    (answers : Answers) :
    (m.perform (m.reconfigure active config settings answers)).Reflects (turns ++ [t]) := by
  have hle : turns <+: turns ++ [t] := List.prefix_append _ _
  cases htun : interfaceUpdate active.currentConfig config answers with
  | error reason =>
    unfold Manager.reconfigure
    rw [htun]
    exact Reflects.clearConnection ((h.dated.mono hle).act (a := .setActive _) trivial) m _
  | ok tun =>
    have hset : (m.act (.setActive
        (some { active with currentConfig := config }))).Reflects turns := by
      refine h.setActive ha rfl ?_
      rw [hcurrent, hnew]
      rfl
    -- the one update names all that the configuration names
    have hall : ∀ w, wished turns = some w → wished (turns ++ [t]) =
        some (w.hear (Request.update (some config.peers) (some settings) tun).message) := by
      intro w hw
      obtain ⟨native, -, hnative, hagent⟩ := h.current active ha
      obtain rfl := Option.some.inj (hw.symm.trans hnative)
      obtain ⟨s, hs⟩ := Option.isSome_iff_exists.mp (hagent.symm.trans hcurrent)
      rw [hwish, hnew]
      change _ = some (Asked.name _ _ _)
      unfold Asked.name
      rw [hs]
      rfl
    have hupdate := hset.request rfl rfl hle hall
    rw [reconfigure_eq ha htun]
    unfold updateRequests
    split
    · have hcapture : (captureRequest config.packetCaptureInfo).Quiet := by
        intro a
        cases config.packetCaptureInfo <;> rfl
      exact hupdate.request rfl rfl (List.prefix_refl _) fun w hw => by rw [hcapture, hw]
    · exact hupdate

theorem Reflects.connect (h : m.Reflects turns) (config : InitialConfig) (answers : Answers) :
    (m.perform (m.connect config answers)).Reflects
      (turns ++ [.call (.connect config answers)]) := by
  have hle : turns <+: turns ++ [.call (.connect config answers)] := List.prefix_append _ _
  have hwish : wished (turns ++ [.call (.connect config answers)]) =
      some ⟨config.peers, localAgentSettings config.mode⟩ := wished_concat ..
  unfold Manager.connect
  cases ha : m.activeConnection with
  | none => exact .start (h.dated.mono hle) ha rfl hwish answers
  | some active =>
    dsimp only
    split
    · next settings hcurrent hnew =>
      exact h.reconfigure ha (by rw [hcurrent]; rfl) hnew hwish answers
    · rw [perform_append]
      exact .start (Reflects.clearConnection (h.dated.mono hle) m _).dated
        (clearConnection_activeConnection m m _) (clearConnection_connections_length m _) hwish
        answers

theorem Reflects.onValidatedNetworks (h : m.Reflects turns) (networks : Finset Network) :
    (m.perform (m.onValidatedNetworks networks)).Reflects
      (turns ++ [.call (.validatedNetworks networks)]) := by
  have hle : turns <+: turns ++ [.call (.validatedNetworks networks)] := List.prefix_append _ _
  unfold Manager.onValidatedNetworks
  cases ha : m.activeConnection with
  | none => exact .of_none (h.dated.mono hle) ha
  | some active =>
    dsimp only
    split
    · have hset : (m.act (.setActive
          (some { active with validatedNetworks := networks }))).Reflects turns :=
        h.setActive ha rfl rfl
      refine hset.request rfl rfl hle fun w hw => ?_
      rw [wished_concat, hw]
      rfl
    · exact h.idle rfl

theorem Reflects.updateInterfaceConfig (h : m.Reflects turns) (interfaceConfig : InterfaceConfig)
    (answers : Answers) :
    (m.perform (m.updateInterfaceConfig interfaceConfig answers)).Reflects
      (turns ++ [.call (.updateInterfaceConfig interfaceConfig answers)]) := by
  unfold Manager.updateInterfaceConfig
  cases ha : m.activeConnection with
  | none => exact h.idle rfl
  | some active =>
    cases answers.establish interfaceConfig with
    | error reason => exact .clearConnection (h.dated.mono (List.prefix_append _ _)) m _
    | ok newTunFd =>
      refine h.request ha rfl (List.prefix_append _ _) fun w hw => ?_
      rw [wished_concat, hw]
      exact congrArg some w.name_none_none.symm

theorem Reflects.exec (h : m.Reflects turns) (t : Turn) : (m.exec t).Reflects (turns ++ [t]) := by
  cases t with
  | task t =>
    have hidle : m.Reflects (turns ++ [.task t]) := h.idle rfl
    change (m.perform (m.onProTunStateChange t.origin t.proTunState)).Reflects _
    unfold onProTunStateChange
    split
    · exact hidle
    · exact ⟨hidle.dated, hidle.current⟩
  | call c =>
    cases c with
    | connect config answers => exact h.connect config answers
    | clearConnection endState =>
      exact .clearConnection (h.dated.mono (List.prefix_append _ _)) m endState
    | updateInterfaceConfig interfaceConfig answers =>
      exact h.updateInterfaceConfig interfaceConfig answers
    | validatedNetworks networks => exact h.onValidatedNetworks networks
    | setPacketCaptureEnabled info =>
      change (m.perform (m.setPacketCaptureEnabled info)).Reflects _
      rw [setPacketCaptureEnabled_eq]
      refine h.onActive fun w => ?_
      cases info <;> rfl
    | updatePeers | updateLocalAgentSettings | update | provideApiForkSelector
    | requestLocalAgentStats | requestConnectionStats => exact h.onActive fun _ => rfl

end Manager

theorem reflects_run (turns : List Turn) : (Manager.run turns).Reflects turns := by
  induction turns using List.reverseRecOn with
  | nil => exact .of_none (fun _ h => absurd h List.not_mem_nil) rfl
  | append_singleton turns t ih =>
    rw [Manager.run_snoc]
    exact ih.exec t

/-! ## The client -/

/-- **The client has what the app wishes for.** Let a native connection, opened in any turns of the
manager, run in any world and read its requests in order. Whenever it does anything but tell its
client of peers and settings, the client has exactly the peers and the settings that the app wished
for after some part of the turns. When all requests have been read and the connection is the active
one, these are the ones that the app wishes for now. -/
theorem wishes_in_force {E S X F : Type} (turns : List Turn) (k : Nat) (native : Connection)
    (hnative : (Manager.run turns).connections[k]? = some native)
    (d : PvpnDependencies E S X F) (streams : S) (env : E) (n : Nat)
    (pre post : List (Obs × Sys E S F)) (o : Obs) (s : Sys E S F)
    (hpast : (PvpnConnection.exec d native.config.initial streams env n).2.past =
      pre ++ (o, s) :: post)
    (hstarted : (lastOf Obs.received pre).isSome ∨ o.received.isSome)
    (ho : PvpnConnection.isTelling o = false)
    (hread : messages pre <+: native.requests.map Request.message) :
    (∃ sofar wish, sofar <+: turns ∧ wished sofar = some wish ∧
        PvpnConnection.Instructed wish pre) ∧
      ((∃ active, (Manager.run turns).activeConnection = some active ∧ active.connection = k) →
        messages pre = native.requests.map Request.message →
        ∃ wish, wished turns = some wish ∧ PvpnConnection.Instructed wish pre) := by
  have hinstructed :
      PvpnConnection.Instructed (PvpnConnection.askedIn native.config.initial pre) pre :=
    PvpnConnection.always_instructed d _ streams env n pre o s post hpast hstarted ho
  have hreflects := reflects_run turns
  constructor
  · obtain ⟨requests, hrequests, hmessages⟩ := List.prefix_map_iff.mp hread
    obtain ⟨sofar, hsofar, hwish⟩ :=
      hreflects.dated native (List.mem_of_getElem? hnative) requests hrequests
    refine ⟨sofar, _, hsofar, hwish, ?_⟩
    unfold Connection.asked
    rw [← hmessages]
    exact hinstructed
  · rintro ⟨active, ha, rfl⟩ hall
    obtain ⟨native', hnative', hwish, -⟩ := hreflects.current active ha
    cases hnative.symm.trans hnative'
    refine ⟨_, hwish, ?_⟩
    unfold Connection.asked
    rw [← hall]
    exact hinstructed

open SanitizedPeers (peerAt)

/-- New peers, and then new settings, for a connection that was opened with others. -/
def changedTwice : List Turn :=
  [.call (.connect { routing [] with peers := [peerAt 1 0] } (established 3)),
   .call (.updatePeers [peerAt 2 0, peerAt 3 0]),
   .call (.updateLocalAgentSettings { splitTcp := some true })]

/-- The loop finds no message at first and both of them later. -/
def readsBoth : Script where
  messages := [none, some (Request.updatePeers [peerAt 2 0, peerAt 3 0]).message,
    some (Request.updateLocalAgentSettings { splitTcp := some true }).message, none]

theorem changedTwice_in_force :
    ∃ native, (Manager.run changedTwice).connections[0]? = some native ∧
      PvpnConnection.Instructed ⟨[peerAt 2 0, peerAt 3 0], some { splitTcp := some true }⟩
        ((Script.log native.config.initial readsBoth 3).take 28) := by
  refine ⟨_, rfl, ?_⟩
  generalize hlog : Script.log _ readsBoth 3 = log
  have hlook : log[28]?.map (fun x => x.1.received) = some (some none) := by
    rw [← hlog]
    decide +kernel
  have hread : messages (log.take 28) =
      [(Request.updatePeers [peerAt 2 0, peerAt 3 0]).message,
        (Request.updateLocalAgentSettings { splitTcp := some true }).message] := by
    rw [← hlog]
    decide +kernel
  obtain ⟨⟨o, s⟩, hget, ho⟩ := Option.map_eq_some_iff.mp hlook
  obtain rfl : o = .recv none := by
    cases o <;> cases ho
    rfl
  have hpast : log = log.take 28 ++ (.recv none, s) :: log.drop 29 := by
    obtain ⟨hlt, hget⟩ := List.getElem?_eq_some_iff.mp hget
    rw [← hget, List.getElem_cons_drop, List.take_append_drop]
  obtain ⟨wish, hwish, hinstructed⟩ := (wishes_in_force changedTwice 0 _ rfl scripted () readsBoth 3
    _ _ _ _ (hlog.trans hpast) (.inr rfl) rfl (hread ▸ List.prefix_refl _)).2 ⟨_, rfl, rfl⟩ hread
  obtain rfl := Option.some.inj hwish
  exact hinstructed

end Protun.Android
