import Protun.Android.Lifecycle

/-!
# What `connect` leaves in force

With a local agent on both sides `connect` does not restart the active connection but updates it. It
re-establishes the interface, and asks for a packet capture, only where the new configuration
differs from `currentConfig`, the configuration of the last `connect`. `updateInterfaceConfig` and
`setPacketCaptureEnabled` change what the native connection has and leave `currentConfig` alone.

* `Connection.InForce`: the interface in use was established from the configuration, and the last
  capture request agrees with it.
* **`inForce_iff`**: after any sequence of turns, a `connect` that ends with an active connection
  leaves its configuration in force iff what it does not apply again was (`Manager.Remembers`).
* `connect_keeps_other_routes`: `updateInterfaceConfig` followed by the same `connect` as before.
* `remembers_run`: the condition can only be missed after one of the calls that go around
  `currentConfig`.
-/

namespace Protun.Android

/-- The interface was established from `config`, and the last capture request, if there was one,
asks for the capture of `config`. -/
structure Connection.InForce (c : Connection) (config : InitialConfig) : Prop where
  interfaceConfig : c.tun.interfaceConfig = config.interfaceConfig
  capture : c.capture = config.packetCaptureInfo.map PacketCaptureInfo.toUniFFI

/-- What an update to `config` leaves as it is already agrees with `config`: where `currentConfig`
has the same interface, or the same capture, so has the native connection. -/
def Manager.Remembers (m : Manager) (config : InitialConfig) : Prop :=
  ∀ active native, m.activeConnection = some active →
    (localAgentSettings active.currentConfig.mode).isSome = true →
    (localAgentSettings config.mode).isSome = true →
    m.connections[active.connection]? = some native →
    (active.currentConfig.interfaceConfig = config.interfaceConfig →
      native.tun.interfaceConfig = config.interfaceConfig) ∧
    (active.currentConfig.packetCaptureInfo = config.packetCaptureInfo →
      native.capture = config.packetCaptureInfo.map PacketCaptureInfo.toUniFFI)

namespace Manager

variable {m : Manager}

@[simp] theorem perform_nil (m : Manager) : m.perform [] = m := rfl

@[simp] theorem perform_cons (m : Manager) (a : Action) (l : List Action) :
    m.perform (a :: l) = (m.act a).perform l := rfl

theorem perform_append (m : Manager) (l l' : List Action) :
    m.perform (l ++ l') = (m.perform l).perform l' := List.foldl_append

/-! ## What a call leaves -/

theorem clearConnection_activeConnection (m m' : Manager) (endState : VpnConnectionState) :
    (m'.perform (m.clearConnection endState)).activeConnection = none := by
  unfold clearConnection
  rw [perform_append]
  rfl

theorem clearConnection_connections_length (m : Manager) (endState : VpnConnectionState) :
    (m.perform (m.clearConnection endState)).connections.length = m.connections.length := by
  unfold clearConnection
  rw [perform_append]
  cases m.activeConnection with
  | none => rfl
  | some active => simp [ActiveConnection.clear, act]

/-- Requests of one connection are recorded there. -/
theorem perform_requests (m : Manager) (connection : Nat) (requests : List Request) :
    (m.perform (requests.map (.request connection))).activeConnection = m.activeConnection ∧
    (m.perform (requests.map (.request connection))).connections[connection]? =
      m.connections[connection]?.map fun c => requests.foldl Connection.record c := by
  induction requests generalizing m with
  | nil => simp
  | cons r requests ih =>
    obtain ⟨h1, h2⟩ := ih (m.act (.request connection r))
    refine ⟨h1, h2.trans ?_⟩
    simp [act, Function.comp_def]

theorem establish_interfaceConfig {answers : Answers} {config : InterfaceConfig}
    {tunFd : ParcelFileDescriptor} (h : answers.establish config = .ok tunFd) :
    tunFd.interfaceConfig = config := by
  unfold Answers.establish at h
  cases he : answers.establishTun with
  | error reason =>
    rw [he] at h
    cases h
  | ok fd =>
    rw [he] at h
    cases h
    rfl

/-- A connection that has just been started has its whole configuration in force. -/
theorem start_inForce {m' : Manager} {config : InitialConfig} {answers : Answers}
    {active : ActiveConnection} (hnone : m'.activeConnection = none)
    (hlength : m'.connections.length = m.connections.length)
    (ha : (m'.perform (m.start config answers)).activeConnection = some active) :
    active.currentConfig = config ∧ ∃ native,
      (m'.perform (m.start config answers)).connections[active.connection]? = some native ∧
      native.InForce config := by
  unfold start at ha ⊢
  cases he : answers.establish config.interfaceConfig with
  | error reason =>
    rw [he] at ha
    change m'.activeConnection = some active at ha
    rw [hnone] at ha
    cases ha
  | ok tunFd =>
    rw [he] at ha
    cases ha
    dsimp only [perform_cons, perform_nil, act]
    rw [← hlength]
    exact ⟨rfl, _, List.getElem?_concat_length, establish_interfaceConfig he, rfl⟩

/-! ## An update of the active connection -/

/-- The request of `setPacketCaptureEnabled`. -/
def captureRequest : Option PacketCaptureInfo → Request
  | none => .stopPacketCapture
  | some info => .startPacketCapture info.toUniFFI

theorem setPacketCaptureEnabled_eq (m : Manager) (info : Option PacketCaptureInfo) :
    m.setPacketCaptureEnabled info = m.onActive (captureRequest info) := by
  cases info <;> rfl

@[simp] theorem captureRequest_tun (info : Option PacketCaptureInfo) :
    (captureRequest info).tun = none := by
  cases info <;> rfl

@[simp] theorem captureRequest_capture (info : Option PacketCaptureInfo) :
    (captureRequest info).capture = some (info.map PacketCaptureInfo.toUniFFI) := by
  cases info <;> rfl

/-- The requests that an update makes of the active connection. -/
def updateRequests (current config : InitialConfig) (settings : LocalAgentSettings)
    (tun : Option ParcelFileDescriptor) : List Request :=
  .update (some config.peers) (some settings) tun ::
    if current.packetCaptureInfo ≠ config.packetCaptureInfo then
      [captureRequest config.packetCaptureInfo]
    else []

theorem reconfigure_eq {active : ActiveConnection} {config : InitialConfig}
    {settings : LocalAgentSettings} {answers : Answers} {tun : Option ParcelFileDescriptor}
    (ha : m.activeConnection = some active)
    (htun : interfaceUpdate active.currentConfig config answers = .ok tun) :
    m.reconfigure active config settings answers =
      .setActive (some { active with currentConfig := config }) ::
        (updateRequests active.currentConfig config settings tun).map
          (.request active.connection) := by
  unfold reconfigure updateRequests
  rw [htun, setPacketCaptureEnabled_eq]
  unfold onActive
  rw [ha]
  dsimp only
  split <;> rfl

/-- The interface after an update is a new one where `currentConfig` had another. -/
theorem interfaceUpdate_iff {current config : InitialConfig} {answers : Answers}
    {tun : Option ParcelFileDescriptor} (htun : interfaceUpdate current config answers = .ok tun)
    (tunFd : ParcelFileDescriptor) :
    (tun.getD tunFd).interfaceConfig = config.interfaceConfig ↔
      (current.interfaceConfig = config.interfaceConfig →
        tunFd.interfaceConfig = config.interfaceConfig) := by
  unfold interfaceUpdate at htun
  split at htun
  · next hne =>
    cases he : answers.establish config.interfaceConfig with
    | error reason =>
      rw [he] at htun
      cases htun
    | ok newTunFd =>
      rw [he] at htun
      cases htun
      exact iff_of_true (establish_interfaceConfig he) fun h => absurd h.symm hne
  · next heq =>
    cases htun
    exact ⟨fun h _ => h, fun h => h (Decidable.not_not.mp heq).symm⟩

theorem updateRequests_inForce_iff {current config : InitialConfig} {settings : LocalAgentSettings}
    {answers : Answers} {tun : Option ParcelFileDescriptor} (native : Connection)
    (htun : interfaceUpdate current config answers = .ok tun) :
    ((updateRequests current config settings tun).foldl Connection.record native).InForce config ↔
      (current.interfaceConfig = config.interfaceConfig →
        native.tun.interfaceConfig = config.interfaceConfig) ∧
      (current.packetCaptureInfo = config.packetCaptureInfo →
        native.capture = config.packetCaptureInfo.map PacketCaptureInfo.toUniFFI) := by
  rw [← interfaceUpdate_iff htun]
  unfold updateRequests
  -- the capture is requested exactly if `currentConfig` has another
  by_cases hcapture : current.packetCaptureInfo = config.packetCaptureInfo
  · rw [if_neg (not_not_intro hcapture)]
    refine ⟨fun h => ⟨by simpa using h.interfaceConfig,
      fun _ => by simpa using h.capture⟩, fun h => ⟨?_, ?_⟩⟩
    · simpa using h.1
    · simpa using h.2 hcapture
  · rw [if_pos hcapture]
    refine ⟨fun h => ⟨by simpa using h.interfaceConfig,
      fun h => absurd h hcapture⟩, fun h => ⟨?_, ?_⟩⟩
    · simpa using h.1
    · simp

/-- An update that is not cut short by the interface. -/
theorem reconfigure_inForce_iff {old active : ActiveConnection} {config : InitialConfig}
    {settings : LocalAgentSettings} {answers : Answers} {native : Connection}
    (hold : m.activeConnection = some old)
    (hnative : m.connections[old.connection]? = some native)
    (ha : (m.perform (m.reconfigure old config settings answers)).activeConnection = some active) :
    active.currentConfig = config ∧ ∃ native',
      (m.perform (m.reconfigure old config settings answers)).connections[active.connection]? =
        some native' ∧
      (native'.InForce config ↔
        (old.currentConfig.interfaceConfig = config.interfaceConfig →
          native.tun.interfaceConfig = config.interfaceConfig) ∧
        (old.currentConfig.packetCaptureInfo = config.packetCaptureInfo →
          native.capture = config.packetCaptureInfo.map PacketCaptureInfo.toUniFFI)) := by
  cases htun : interfaceUpdate old.currentConfig config answers with
  | error reason =>
    -- the interface could not be established, and the connection is cleared
    unfold reconfigure at ha
    rw [htun] at ha
    cases (clearConnection_activeConnection m _ _).symm.trans ha
  | ok tun =>
    rw [reconfigure_eq hold htun, perform_cons] at ha ⊢
    obtain ⟨hactive, hrecorded⟩ := perform_requests
      (m.act (.setActive (some { old with currentConfig := config }))) old.connection
      (updateRequests old.currentConfig config settings tun)
    rw [hactive] at ha
    cases ha
    refine ⟨rfl, _, hrecorded.trans (congrArg _ hnative), ?_⟩
    exact updateRequests_inForce_iff native htun

/-! ## `connect` -/

/-- The condition speaks of an update only. -/
theorem remembers_of_restart {config : InitialConfig}
    (h : ∀ old current new, m.activeConnection = some old →
      localAgentSettings old.currentConfig.mode = some current →
      localAgentSettings config.mode ≠ some new) : m.Remembers config := by
  intro old _ hold hcurrent hnew
  obtain ⟨current, hcurrent⟩ := Option.isSome_iff_exists.mp hcurrent
  obtain ⟨new, hnew⟩ := Option.isSome_iff_exists.mp hnew
  exact absurd hnew (h old current new hold hcurrent)

theorem remembers_iff {config : InitialConfig} {old : ActiveConnection} {native : Connection}
    {current new : LocalAgentSettings} (hold : m.activeConnection = some old)
    (hnative : m.connections[old.connection]? = some native)
    (hcurrent : localAgentSettings old.currentConfig.mode = some current)
    (hnew : localAgentSettings config.mode = some new) :
    m.Remembers config ↔
      (old.currentConfig.interfaceConfig = config.interfaceConfig →
        native.tun.interfaceConfig = config.interfaceConfig) ∧
      (old.currentConfig.packetCaptureInfo = config.packetCaptureInfo →
        native.capture = config.packetCaptureInfo.map PacketCaptureInfo.toUniFFI) := by
  refine ⟨fun h => h old native hold ?_ ?_ hnative, fun h a n ha _ _ hn => ?_⟩
  · rw [hcurrent]
    rfl
  · rw [hnew]
    rfl
  · cases hold.symm.trans ha
    cases hnative.symm.trans hn
    exact h

/-- **What a `connect` leaves**, if it leaves an active connection. -/
theorem connect_inForce_iff {config : InitialConfig} {answers : Answers} {active : ActiveConnection}
    (hnumber : ∀ a, m.activeConnection = some a → ∃ native,
      m.connections[a.connection]? = some native)
    (ha : (m.perform (m.connect config answers)).activeConnection = some active) :
    active.currentConfig = config ∧ ∃ native,
      (m.perform (m.connect config answers)).connections[active.connection]? = some native ∧
      (native.InForce config ↔ m.Remembers config) := by
  unfold connect at ha ⊢
  cases hold : m.activeConnection with
  | none =>
    rw [hold] at ha
    obtain ⟨hconfig, native, hnative, hforce⟩ := start_inForce hold rfl ha
    refine ⟨hconfig, native, hnative, iff_of_true hforce (remembers_of_restart ?_)⟩
    intro old _ _ h
    cases hold.symm.trans h
  | some old =>
    rw [hold] at ha
    revert ha
    dsimp only
    split
    · next settings hcurrent hnew =>
      intro ha
      obtain ⟨native, hnative⟩ := hnumber old hold
      obtain ⟨hconfig, native', hnative', hiff⟩ := reconfigure_inForce_iff hold hnative ha
      exact ⟨hconfig, native', hnative',
        hiff.trans (remembers_iff hold hnative hcurrent hnew).symm⟩
    · next hmodes =>
      intro ha
      rw [perform_append] at ha ⊢
      obtain ⟨hconfig, native, hnative, hforce⟩ := start_inForce
        (clearConnection_activeConnection m m _) (clearConnection_connections_length m _) ha
      refine ⟨hconfig, native, hnative, iff_of_true hforce (remembers_of_restart ?_)⟩
      intro a current new h hcurrent hnew
      cases hold.symm.trans h
      exact hmodes current new hcurrent hnew

end Manager

/-- **When `connect` leaves its configuration in force.** After any turns, a `connect` that ends
with an active connection does iff the native connection already had what `connect` does not apply
again. -/
theorem inForce_iff (turns : List Turn) (config : InitialConfig) (answers : Answers)
    (active : ActiveConnection)
    (ha : ((Manager.run turns).exec (.call (.connect config answers))).activeConnection =
      some active) :
    ∃ native,
      ((Manager.run turns).exec (.call (.connect config answers))).connections[active.connection]? =
        some native ∧
      (native.InForce config ↔ (Manager.run turns).Remembers config) := by
  obtain ⟨v, hd, hr⟩ := rests_run turns
  refine (Manager.connect_inForce_iff (fun a ha => ?_) ha).2
  have hlast := hr.last _ (hd.active_eq ha)
  rw [hd.opened] at hlast
  exact ⟨_, List.getElem?_eq_getElem (by omega)⟩

/-! ## A disagreement -/

/-- A configuration with a local agent that routes `routes` and captures nothing. -/
def routing (routes : List IpNetworkPrefix) : InitialConfig where
  interfaceConfig := { supportInTunnelIPv6 := false, routes := routes }
  peers := []
  packetCaptureInfo := none
  mode := .localAgent "agent" "1.0" {}

/-- An interface is established as descriptor `fd`. -/
def established (fd : Int) : Answers := ⟨.ok fd, ∅, 0⟩

/-- A first `connect`, and an update that routes everything: the interface is established again, and
no capture had been asked for. -/
theorem rerouted_inForce : ∃ native,
    ((Manager.run [.call (.connect (routing []) (established 3))]).exec
      (.call (.connect (routing (defaultRoutes false)) (established 4)))).connections[0]? =
        some native ∧
    native.InForce (routing (defaultRoutes false)) := by
  obtain ⟨native, hnative, hiff⟩ := inForce_iff [.call (.connect (routing []) (established 3))]
    (routing (defaultRoutes false)) (established 4) _ rfl
  refine ⟨native, hnative, hiff.mpr ?_⟩
  rintro active native ⟨⟩ - - ⟨⟩
  exact ⟨by decide, fun _ => rfl⟩

/-- The interface and the capture are changed behind `currentConfig`. The same `connect` as before
then changes neither: its routes are not those in use, and the capture goes on. -/
theorem connect_keeps_other_routes :
    let m := Manager.run [
      .call (.connect (routing (defaultRoutes false)) (established 3)),
      .call (.updateInterfaceConfig (routing []).interfaceConfig (established 4)),
      .call (.setPacketCaptureEnabled (some ⟨.fd 7, none⟩))]
    let m' := m.exec (.call (.connect (routing (defaultRoutes false)) (established 5)))
    ∃ active native, m'.activeConnection = some active ∧
      m'.connections[active.connection]? = some native ∧
      native.tun.interfaceConfig ≠ (routing (defaultRoutes false)).interfaceConfig ∧
      native.capture = some ⟨.fd 7, none⟩ :=
  ⟨_, _, rfl, rfl, by decide, rfl⟩

/-! ## Only the calls that go around `currentConfig` matter -/

/-- The calls that change the interface or the capture and not `currentConfig`. -/
def Turn.goesAround : Turn → Bool
  | .call (.updateInterfaceConfig _ _) | .call (.update _ _ _)
  | .call (.setPacketCaptureEnabled _) => true
  | _ => false

namespace Manager

/-- `currentConfig` is what the active connection has. -/
def InSync (m : Manager) : Prop :=
  ∀ active, m.activeConnection = some active → ∃ native,
    m.connections[active.connection]? = some native ∧ native.InForce active.currentConfig

variable {m : Manager}

theorem InSync.remembers (h : m.InSync) (config : InitialConfig) : m.Remembers config := by
  intro active native ha _ _ hnative
  obtain ⟨native', hnative', hforce⟩ := h active ha
  cases hnative.symm.trans hnative'
  exact ⟨fun heq => hforce.interfaceConfig.trans heq, fun heq => heq ▸ hforce.capture⟩

/-- A request that is about neither the interface nor a capture. -/
theorem InSync.request {active : ActiveConnection} {r : Request} (h : m.InSync)
    (ha : m.activeConnection = some active) (htun : r.tun = none) (hcapture : r.capture = none) :
    (m.act (.request active.connection r)).InSync := by
  intro a ha'
  cases ha.symm.trans ha'
  obtain ⟨native, hnative, hforce⟩ := h active ha
  refine ⟨native.record r, by simp [act, hnative], ?_, ?_⟩
  · simpa [htun] using hforce.interfaceConfig
  · simpa [hcapture] using hforce.capture

theorem InSync.onActive {r : Request} (h : m.InSync) (htun : r.tun = none)
    (hcapture : r.capture = none) : (m.perform (m.onActive r)).InSync := by
  unfold Manager.onActive
  cases ha : m.activeConnection with
  | none => exact h
  | some active => exact h.request ha htun hcapture

theorem InSync.onValidatedNetworks (h : m.InSync) (networks : Finset Network) :
    (m.perform (m.onValidatedNetworks networks)).InSync := by
  unfold Manager.onValidatedNetworks
  cases ha : m.activeConnection with
  | none => exact h
  | some active =>
    dsimp only
    split
    · have hset : (m.act (.setActive
          (some { active with validatedNetworks := networks }))).InSync := by
        rintro a ⟨⟩
        exact h active ha
      have hsync := hset.request (r := .onConnectivityChange
        (connectivityEvent active.validatedNetworks networks)) rfl rfl rfl
      exact hsync
    · exact h

theorem InSync.connect (h : m.InSync) (config : InitialConfig) (answers : Answers) :
    (m.perform (m.connect config answers)).InSync := by
  intro active ha
  have hnumber : ∀ a, m.activeConnection = some a → ∃ native,
      m.connections[a.connection]? = some native := fun a ha =>
    let ⟨native, hnative, _⟩ := h a ha
    ⟨native, hnative⟩
  obtain ⟨hconfig, native, hnative, hiff⟩ := connect_inForce_iff hnumber ha
  exact ⟨native, hnative, hconfig ▸ hiff.mpr (h.remembers config)⟩

theorem InSync.exec (h : m.InSync) {t : Turn} (ht : t.goesAround = false) : (m.exec t).InSync := by
  cases t with
  | task t =>
    change (m.perform (m.onProTunStateChange t.origin t.proTunState)).InSync
    unfold onProTunStateChange
    split <;> exact h
  | call c =>
    cases c with
    | connect config answers => exact h.connect config answers
    | clearConnection endState =>
      intro active ha
      cases (clearConnection_activeConnection m m endState).symm.trans ha
    | validatedNetworks networks => exact h.onValidatedNetworks networks
    | updateInterfaceConfig | update | setPacketCaptureEnabled => cases ht
    | updatePeers | updateLocalAgentSettings | provideApiForkSelector | requestLocalAgentStats
    | requestConnectionStats => exact h.onActive rfl rfl

end Manager

/-- **Without the calls that go around `currentConfig` every `connect` leaves its configuration in
force.** -/
theorem remembers_run (turns : List Turn) (h : ∀ t ∈ turns, t.goesAround = false)
    (config : InitialConfig) : (Manager.run turns).Remembers config := by
  have hsync : (Manager.run turns).InSync := by
    induction turns using List.reverseRecOn with
    | nil =>
      intro active ha
      cases ha
    | append_singleton turns t ih =>
      rw [Manager.run_snoc]
      exact (ih fun t ht => h t (by simp [ht])).exec (h t (by simp))
  exact hsync.remembers config

end Protun.Android
