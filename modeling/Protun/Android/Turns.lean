import Protun.Android.Config

/-!
# How a turn ends

Of a turn of the manager the service needs to know little: whether it opens a native connection, and
what is left of `activeConnection` and `state` when it is complete. A turn keeps the connection
(`Kept`), ends with none (`Ended`) or opens one (`Opened`); `connect` can do each of the three.
-/

namespace Protun.Android

/-- The actions open a native connection. -/
def opens (actions : List Action) : Bool :=
  actions.any fun
    | .unixConnect _ _ => true
    | _ => false

/-- The validated networks of the active connection. -/
def Manager.networks (m : Manager) : Option (Finset Network) :=
  m.activeConnection.map ActiveConnection.validatedNetworks

namespace Manager

variable {m : Manager}

theorem networks_eq_none_iff : m.networks = none ↔ m.activeConnection = none :=
  Option.map_eq_none_iff

/-- A turn that keeps the connection, if there is one. -/
structure Kept (m : Manager) (actions : List Action) : Prop where
  opens : opens actions = false
  networks : (m.perform actions).networks = m.networks
  state : (m.perform actions).state = m.state

theorem Kept.active_eq_none_iff {actions : List Action} (h : m.Kept actions) :
    (m.perform actions).activeConnection = none ↔ m.activeConnection = none := by
  rw [← networks_eq_none_iff, h.networks, networks_eq_none_iff]

/-- A turn after which there is no connection. -/
structure Ended (m : Manager) (actions : List Action) (endState : VpnConnectionState) : Prop where
  opens : opens actions = false
  active : (m.perform actions).activeConnection = none
  state : (m.perform actions).state = ⟨.down none, endState⟩

/-- A turn that opens one. -/
structure Opened (m : Manager) (actions : List Action) : Prop where
  opens : opens actions = true
  active : (m.perform actions).activeConnection.isSome = true

@[simp] theorem opens_append (l l' : List Action) : opens (l ++ l') = (opens l || opens l') :=
  List.any_append

theorem opens_requests (connection : Nat) (requests : List Request) :
    opens (requests.map (.request connection)) = false := by
  induction requests with
  | nil => rfl
  | cons r requests ih => exact ih

theorem perform_requests_state (m : Manager) (connection : Nat) (requests : List Request) :
    (m.perform (requests.map (.request connection))).state = m.state := by
  induction requests generalizing m with
  | nil => rfl
  | cons r requests ih => exact ih _

theorem kept_requests (m : Manager) (connection : Nat) (requests : List Request) :
    m.Kept (requests.map (.request connection)) where
  opens := opens_requests connection requests
  networks := congrArg (Option.map ActiveConnection.validatedNetworks)
    (perform_requests m connection requests).1
  state := perform_requests_state m connection requests

theorem kept_nil (m : Manager) : m.Kept [] := ⟨rfl, rfl, rfl⟩

theorem kept_onActive (m : Manager) (r : Request) : m.Kept (m.onActive r) := by
  unfold onActive
  split
  · exact kept_nil m
  · exact kept_requests m _ [r]

/-- `clearConnection`, also with another manager's actions before it. -/
theorem ended_clearConnection (m m' : Manager) (endState : VpnConnectionState) :
    m'.Ended (m.clearConnection endState) endState := by
  refine ⟨?_, clearConnection_activeConnection m m' endState, ?_⟩
  · unfold clearConnection
    cases m.activeConnection <;> rfl
  · unfold clearConnection
    rw [perform_append]
    rfl

/-- The end of `connect`, when there is no connection. -/
theorem start_outcome {m' : Manager} (hnone : m'.activeConnection = none) (config : InitialConfig)
    (answers : Answers) :
    m'.Opened (m.start config answers) ∨
      ∃ reason, m'.Ended (m.start config answers) (.disconnected (some reason)) := by
  unfold start
  cases answers.establish config.interfaceConfig with
  | error reason => exact .inr ⟨reason, rfl, hnone, rfl⟩
  | ok tunFd => exact .inl ⟨rfl, rfl⟩

theorem reconfigure_outcome {active : ActiveConnection} (ha : m.activeConnection = some active)
    (config : InitialConfig) (settings : LocalAgentSettings) (answers : Answers) :
    m.Kept (m.reconfigure active config settings answers) ∨
      ∃ reason, m.Ended (m.reconfigure active config settings answers)
        (.disconnected (some reason)) := by
  cases htun : interfaceUpdate active.currentConfig config answers with
  | error reason =>
    have hended := ended_clearConnection m
      (m.act (.setActive (some { active with currentConfig := config })))
      (.disconnected (some reason))
    refine .inr ⟨reason, ?_⟩
    unfold reconfigure
    rw [htun]
    exact ⟨hended.opens, hended.active, hended.state⟩
  | ok tun =>
    rw [reconfigure_eq ha htun]
    have hkept := kept_requests (m.act (.setActive (some { active with currentConfig := config })))
      active.connection (updateRequests active.currentConfig config settings tun)
    refine .inl ⟨hkept.opens, hkept.networks.trans ?_, hkept.state⟩
    rw [networks, networks, ha]
    rfl

/-- `connect` opens a connection, keeps the one there is or ends with an error. -/
theorem connect_outcome (m : Manager) (config : InitialConfig) (answers : Answers) :
    m.Opened (m.connect config answers) ∨
      (∃ reason, m.Ended (m.connect config answers) (.disconnected (some reason))) ∨
      m.activeConnection.isSome = true ∧ m.Kept (m.connect config answers) := by
  unfold connect
  split
  · next hnone =>
    rcases start_outcome hnone config answers with h | h
    · exact .inl h
    · exact .inr (.inl h)
  · next active ha =>
    split
    · next settings _ _ =>
      rcases reconfigure_outcome ha config settings answers with h | h
      · exact .inr (.inr ⟨by rw [ha]; rfl, h⟩)
      · exact .inr (.inl h)
    · have hclear := ended_clearConnection m m (.connecting [] [])
      rcases start_outcome (m := m) hclear.active config answers with h | ⟨reason, h⟩
      · exact .inl ⟨by simp [hclear.opens, h.opens], by rw [perform_append]; exact h.active⟩
      · refine .inr (.inl ⟨reason, by simp [hclear.opens, h.opens], ?_, ?_⟩)
        · rw [perform_append]
          exact h.active
        · rw [perform_append]
          exact h.state

theorem updateInterfaceConfig_outcome (m : Manager) (config : InterfaceConfig)
    (answers : Answers) :
    (∃ reason, m.Ended (m.updateInterfaceConfig config answers) (.disconnected (some reason))) ∨
      m.Kept (m.updateInterfaceConfig config answers) := by
  unfold updateInterfaceConfig
  split
  · exact .inr (kept_nil m)
  · next active ha =>
    split
    · next reason _ => exact .inl ⟨reason, ended_clearConnection m m _⟩
    · next newTunFd _ => exact .inr (kept_requests m active.connection [.updateUnixTun newTunFd])

/-- The collector brings the networks of the active connection up to date. -/
theorem onValidatedNetworks_outcome (m : Manager) (v : Finset Network) :
    opens (m.onValidatedNetworks v) = false ∧
      (m.perform (m.onValidatedNetworks v)).networks = m.networks.map (fun _ => v) ∧
      (m.perform (m.onValidatedNetworks v)).state = m.state := by
  unfold onValidatedNetworks
  split
  · next hnone => exact ⟨rfl, by simp [networks, hnone], rfl⟩
  · next active ha =>
    split
    · exact ⟨rfl, by simp [networks, ha, act], rfl⟩
    · next heq => exact ⟨rfl, by simpa [networks, ha] using heq, rfl⟩

/-- A task publishes a state if there is a connection. -/
theorem onProTunStateChange_outcome (m : Manager) (origin : Nat) (state : Protun.VpnState) :
    opens (m.onProTunStateChange origin state) = false ∧
      (m.perform (m.onProTunStateChange origin state)).activeConnection = m.activeConnection ∧
      (m.activeConnection = none →
        (m.perform (m.onProTunStateChange origin state)).state = m.state) := by
  unfold onProTunStateChange
  split
  · exact ⟨rfl, rfl, fun _ => rfl⟩
  · next active ha => exact ⟨rfl, rfl, fun hnone => by cases ha.symm.trans hnone⟩

end Manager

end Protun.Android
