import Protun.Android.Manager
import Protun.Recovery
import Protun.Trace.Automaton

/-!
# The life cycle of a native connection

The manager opens a native connection only when the thread of the one before has ended, makes
requests of the active one only, and forgets it only after it has waited for its thread. `Stage`
keeps what of the past matters to this, and `Stage.next` is the automaton of the actions that
respect it. It also follows the network flag: a connection is opened with it, and after every
assignment that changes whether the active connection has validated networks the event for the
native side is sent before anything else is assigned.

* **`Turn.lifecycle`**: the actions of every turn are a word of the automaton, from a stage at rest
  to a stage at rest.
* `Stage.Describes.perform`: what the stage says of the manager stays true along such a word.
* `rests_run`: so it is true after any sequence of turns.
-/

namespace Protun.Android

open Trace

/-- The connectivity event that a request sends. -/
def Request.connectivity : Request → Option ConnectivityEvent
  | .onConnectivityChange event => some event
  | _ => none

/-- What the next action may depend on. -/
structure Stage where
  /-- The number of the active connection. -/
  active : Option Nat
  /-- Whether it has validated networks. -/
  networks : Bool
  /-- How many connections have been opened. -/
  opened : Nat
  /-- The network flag of the one opened last, once it has read what it was sent. -/
  flag : Bool
  /-- Every native thread has been waited for. -/
  joined : Bool
  deriving DecidableEq, Repr

namespace Stage

def initial : Stage := ⟨none, false, 0, false, true⟩

/-- The native side knows, or will, whether there is a network. -/
def Informed (v : Stage) : Prop := v.active = none ∨ v.flag = v.networks

instance (v : Stage) : Decidable v.Informed := inferInstanceAs (Decidable (_ ∨ _))

/-- The life cycle: the stage after an action that respects it. -/
def next (v : Stage) : Action → Option Stage
  | .setActive none =>
    if v.joined = true ∧ v.Informed then some { v with active := none } else none
  | .setActive (some active) =>
    if v.Informed ∧ active.connection + 1 = v.opened then
      some { v with
        active := some active.connection
        networks := decide active.validatedNetworks.Nonempty }
    else none
  | .setState _ | .publish _ _ | .clearCallback _ => some v
  | .request connection r =>
    if v.active = some connection then
      some { v with flag := flagAfter v.flag r.connectivity.toList }
    else none
  | .join connection => if v.active = some connection then some { v with joined := true } else none
  | .unixConnect config _ =>
    if v.active = none ∧ v.joined = true then
      some { v with opened := v.opened + 1, flag := config.networkAvailable, joined := false }
    else none

/-- A stage between two turns. -/
structure Rests (v : Stage) : Prop where
  informed : v.Informed
  joined : v.active = none → v.joined = true
  last : ∀ connection, v.active = some connection → connection + 1 = v.opened

/-- What the stage says of the manager. -/
structure Describes (v : Stage) (m : Manager) : Prop where
  active : v.active = m.activeConnection.map ActiveConnection.connection
  networks : ∀ a, m.activeConnection = some a → v.networks = decide a.validatedNetworks.Nonempty
  opened : v.opened = m.connections.length

theorem rests_initial : Rests initial := ⟨.inl rfl, fun _ => rfl, by simp [initial]⟩

theorem describes_initial : Describes initial .initial := ⟨rfl, by simp [Manager.initial], rfl⟩

namespace Describes

variable {v v' : Stage} {m : Manager}

/-- An action changes the stage as it changes the manager. -/
theorem act {a : Action} (h : v.Describes m) (hn : v.next a = some v') :
    v'.Describes (m.act a) := by
  cases a with
  | setActive active =>
    cases active with
    | none =>
      obtain ⟨-, ⟨⟩⟩ := Option.ite_none_right_eq_some.mp hn
      exact ⟨rfl, by simp [Manager.act], h.opened⟩
    | some active =>
      obtain ⟨-, ⟨⟩⟩ := Option.ite_none_right_eq_some.mp hn
      exact ⟨rfl, by simp [Manager.act], h.opened⟩
  | setState state | publish origin state =>
    cases hn
    exact ⟨h.active, h.networks, h.opened⟩
  | clearCallback connection =>
    cases hn
    exact h
  | request connection r =>
    obtain ⟨-, ⟨⟩⟩ := Option.ite_none_right_eq_some.mp hn
    exact ⟨h.active, h.networks, by simpa [Manager.act] using h.opened⟩
  | join connection =>
    obtain ⟨-, ⟨⟩⟩ := Option.ite_none_right_eq_some.mp hn
    exact ⟨h.active, h.networks, h.opened⟩
  | unixConnect config tunFd =>
    obtain ⟨-, ⟨⟩⟩ := Option.ite_none_right_eq_some.mp hn
    exact ⟨h.active, h.networks, by simpa [Manager.act] using h.opened⟩

/-- The same for a word of the automaton. -/
theorem perform {actions : List Action} (h : v.Describes m) (hn : after next v actions = some v') :
    v'.Describes (m.perform actions) := by
  induction actions generalizing v m with
  | nil =>
    cases hn
    exact h
  | cons a actions ih =>
    obtain ⟨u, hu, hn⟩ := after_cons.mp hn
    exact ih (h.act hu) hn

/-- A manager whose connection is active. -/
theorem active_eq {active : ActiveConnection} (h : v.Describes m)
    (ha : m.activeConnection = some active) : v.active = some active.connection := by
  rw [h.active, ha]
  rfl

theorem active_eq_none (h : v.Describes m) (ha : m.activeConnection = none) : v.active = none := by
  rw [h.active, ha]
  rfl

end Describes

end Stage

/-! ## Every turn follows the life cycle -/

/-- The actions lead from the stage `v` to one at rest. -/
def Completes (v : Stage) (actions : List Action) : Prop :=
  ∃ v', after Stage.next v actions = some v' ∧ v'.Rests

theorem completes_cons {v u : Stage} {a : Action} {actions : List Action} (h : v.next a = some u)
    (hc : Completes u actions) : Completes v (a :: actions) :=
  let ⟨v', hv', hr⟩ := hc
  ⟨v', after_cons.mpr ⟨u, h, hv'⟩, hr⟩

theorem Stage.Rests.completes_nil {v : Stage} (h : v.Rests) : Completes v [] := ⟨v, rfl, h⟩

theorem completes_append {v u : Stage} {l l' : List Action} (h : after Stage.next v l = some u)
    (hc : Completes u l') : Completes v (l ++ l') :=
  let ⟨v', hv', hr⟩ := hc
  ⟨v', after_append.mpr ⟨u, h, hv'⟩, hr⟩

section Turns

variable {v : Stage} {m : Manager}

/-- A request that is not about the network. -/
theorem request_next {connection : Nat} {r : Request} (ha : v.active = some connection)
    (hr : r.connectivity = none) : v.next (.request connection r) = some v := by
  simp only [Stage.next, if_pos ha, hr]
  rfl

theorem onActive_after (hd : v.Describes m) {r : Request} (hr : r.connectivity = none) :
    after Stage.next v (m.onActive r) = some v := by
  unfold Manager.onActive
  split
  · rfl
  · next active ha => exact after_cons.mpr ⟨v, request_next (hd.active_eq ha) hr, rfl⟩

theorem setPacketCaptureEnabled_after (hd : v.Describes m) (info : Option PacketCaptureInfo) :
    after Stage.next v (m.setPacketCaptureEnabled info) = some v := by
  cases info with
  | none => exact onActive_after hd rfl
  | some info => exact onActive_after hd rfl

/-- The active connection is waited for, and then forgotten. -/
theorem clearConnection_after (hd : v.Describes m) (hr : v.Rests) (endState : VpnConnectionState) :
    after Stage.next v (m.clearConnection endState) =
      some { v with active := none, joined := true } := by
  unfold Manager.clearConnection
  cases ha : m.activeConnection with
  | none =>
    have hnone := hd.active_eq_none ha
    obtain ⟨active, networks, opened, flag, joined⟩ := v
    obtain rfl : joined = true := hr.joined hnone
    obtain rfl : active = none := hnone
    simp [after, Stage.next, Stage.Informed]
  | some active =>
    have hsome := hd.active_eq ha
    have hinformed : v.flag = v.networks := hr.informed.resolve_left (by simp [hsome])
    simp [ActiveConnection.clear, after, Stage.next, hsome, hinformed, Stage.Informed,
      Request.connectivity, flagAfter]

theorem clearConnection_completes (hd : v.Describes m) (hr : v.Rests)
    (endState : VpnConnectionState) : Completes v (m.clearConnection endState) :=
  ⟨_, clearConnection_after hd hr endState, .inl rfl, fun _ => rfl, by simp⟩

/-- A connection is opened when there is none. -/
theorem start_completes (hnone : v.active = none) (hjoined : v.joined = true)
    (hopened : v.opened = m.connections.length) (config : InitialConfig) (answers : Answers) :
    Completes v (m.start config answers) := by
  unfold Manager.start
  split
  · exact ⟨v, rfl, .inl hnone, fun _ => hjoined, by simp [hnone]⟩
  · refine completes_cons (u := { v with
      opened := v.opened + 1
      flag := decide answers.validatedNetworks.Nonempty
      joined := false }) (by simp [Stage.next, hnone, hjoined]) ?_
    refine completes_cons (u := { v with
      active := some m.connections.length
      networks := decide answers.validatedNetworks.Nonempty
      opened := v.opened + 1
      flag := decide answers.validatedNetworks.Nonempty
      joined := false }) (by simp [Stage.next, Stage.Informed, hnone, hopened]) ?_
    exact Stage.Rests.completes_nil ⟨.inr rfl, by simp, by simp [hopened]⟩

/-- An assignment that keeps the connection and its networks. -/
theorem setActive_next {active active' : ActiveConnection} (hd : v.Describes m) (hr : v.Rests)
    (ha : m.activeConnection = some active) (hc : active'.connection = active.connection)
    (hn : active'.validatedNetworks = active.validatedNetworks) :
    v.next (.setActive (some active')) = some v := by
  have hsome := hd.active_eq ha
  have hnetworks := hd.networks active ha
  have hlast := hr.last _ hsome
  obtain ⟨act, networks, opened, flag, joined⟩ := v
  obtain rfl : act = _ := hsome
  obtain rfl : networks = _ := hnetworks
  simp [Stage.next, hr.informed, hc, hn, hlast]

theorem reconfigure_completes (hd : v.Describes m) (hr : v.Rests) {active : ActiveConnection}
    (ha : m.activeConnection = some active) (config : InitialConfig)
    (settings : LocalAgentSettings) (answers : Answers) :
    Completes v (m.reconfigure active config settings answers) := by
  unfold Manager.reconfigure
  refine completes_cons (setActive_next hd hr ha rfl rfl) ?_
  split
  · exact clearConnection_completes hd hr _
  · refine completes_append (onActive_after hd rfl) ?_
    split
    · exact ⟨v, setPacketCaptureEnabled_after hd _, hr⟩
    · exact hr.completes_nil

theorem connect_completes (hd : v.Describes m) (hr : v.Rests) (config : InitialConfig)
    (answers : Answers) : Completes v (m.connect config answers) := by
  unfold Manager.connect
  split
  · next ha =>
    have hnone := hd.active_eq_none ha
    exact start_completes hnone (hr.joined hnone) hd.opened config answers
  · next active ha =>
    split
    · exact reconfigure_completes hd hr ha config _ answers
    · refine completes_append (clearConnection_after hd hr _) ?_
      exact start_completes (v := { v with active := none, joined := true }) rfl rfl hd.opened
        config answers

theorem updateInterfaceConfig_completes (hd : v.Describes m) (hr : v.Rests)
    (interfaceConfig : InterfaceConfig) (answers : Answers) :
    Completes v (m.updateInterfaceConfig interfaceConfig answers) := by
  unfold Manager.updateInterfaceConfig
  split
  · exact hr.completes_nil
  · next active ha =>
    split
    · exact clearConnection_completes hd hr _
    · exact completes_cons (request_next (hd.active_eq ha) rfl) hr.completes_nil

theorem available_connectivityEvent (old new : Finset Network) :
    (Manager.connectivityEvent old new).available = decide new.Nonempty := by
  unfold Manager.connectivityEvent
  split
  · next h => simp [ConnectivityEvent.available, h]
  · next h =>
    have hne : new.Nonempty := Finset.nonempty_iff_ne_empty.mpr h
    split <;> simp [ConnectivityEvent.available, hne]

theorem onValidatedNetworks_completes (hd : v.Describes m) (hr : v.Rests)
    (networks : Finset Network) : Completes v (m.onValidatedNetworks networks) := by
  unfold Manager.onValidatedNetworks
  split
  · exact hr.completes_nil
  · next active ha =>
    split
    · have hsome := hd.active_eq ha
      have hlast := hr.last _ hsome
      refine completes_cons (u := { v with networks := decide networks.Nonempty })
        (by simp [Stage.next, hr.informed, hlast, ← hsome]) ?_
      -- the event sets the flag to what has just been assigned
      refine completes_cons (u := { v with
        networks := decide networks.Nonempty
        flag := decide networks.Nonempty })
        (by simp [Stage.next, hsome, Request.connectivity, flagAfter,
          available_connectivityEvent]) ?_
      exact Stage.Rests.completes_nil ⟨.inr rfl, hr.joined, hr.last⟩
    · exact hr.completes_nil

/-- **Every turn follows the life cycle**, from rest to rest. -/
theorem Turn.lifecycle (hd : v.Describes m) (hr : v.Rests) (t : Turn) :
    Completes v (t.actions m) := by
  have honActive : ∀ r : Request, r.connectivity = none → Completes v (m.onActive r) :=
    fun r h => ⟨v, onActive_after hd h, hr⟩
  cases t with
  | task t =>
    change Completes v (m.onProTunStateChange t.origin t.proTunState)
    unfold Manager.onProTunStateChange
    split
    · exact hr.completes_nil
    · exact ⟨v, rfl, hr⟩
  | call c =>
    cases c with
    | connect config answers => exact connect_completes hd hr config answers
    | clearConnection endState => exact clearConnection_completes hd hr endState
    | updateInterfaceConfig interfaceConfig answers =>
      exact updateInterfaceConfig_completes hd hr interfaceConfig answers
    | setPacketCaptureEnabled info => exact ⟨v, setPacketCaptureEnabled_after hd info, hr⟩
    | validatedNetworks networks => exact onValidatedNetworks_completes hd hr networks
    | updatePeers | updateLocalAgentSettings | update | provideApiForkSelector
    | requestLocalAgentStats | requestConnectionStats => exact honActive _ rfl

end Turns

/-- After any sequence of turns the manager is described by a stage at rest. -/
theorem rests_run (turns : List Turn) : ∃ v : Stage, v.Describes (Manager.run turns) ∧ v.Rests := by
  induction turns using List.reverseRecOn with
  | nil => exact ⟨.initial, Stage.describes_initial, Stage.rests_initial⟩
  | append_singleton turns t ih =>
    obtain ⟨v, hd, hr⟩ := ih
    obtain ⟨v', hv', hr'⟩ := t.lifecycle hd hr
    rw [Manager.run_snoc]
    exact ⟨v', hd.perform hv', hr'⟩

end Protun.Android
