import Protun.Android.Callbacks
import Protun.Connection.Network
import Protun.Threads.Model

/-!
# The network flag across the language boundary

A native connection is opened with `networkAvailable` as the observer has it, and from then on it
only hears of differences: the collector compares the validated networks it observes with those
stored in `activeConnection` and sends `DOWN`, `UP` or `NETWORK_SWITCH`. The native side folds these
back into a flag, each when it comes to read it.

* **`flag_agrees`**: in every interleaving, with the queued events applied the flag says whether
  the active connection has validated networks; when nothing is queued the flag itself does.
* `native_flag_of_exec`: the flag of a native connection here is the flag of the connection loop.
-/

namespace Protun.Android

open Trace

/-- The handler once it has been told of `events`. -/
def informed (r : NetworkRecoveryHandler) (events : List ConnectivityEvent) :
    NetworkRecoveryHandler :=
  events.foldl NetworkRecoveryHandler.onConnectivityChange r

theorem informed_networkAvailable (r : NetworkRecoveryHandler) (events : List ConnectivityEvent) :
    (informed r events).networkAvailable = flagAfter r.networkAvailable events := by
  induction events generalizing r with
  | nil => rfl
  | cons event events ih =>
    refine (ih (r.onConnectivityChange event)).trans ?_
    rw [NetworkRecoveryHandler.onConnectivityChange_networkAvailable]
    rfl

/-- The connectivity events that the main thread is in the middle of sending: those of its turn
before the next assignment to `activeConnection`. There are none between two turns. -/
def upcoming : List Action → List ConnectivityEvent
  | [] | .setActive _ :: _ => []
  | .request _ r :: actions => r.connectivity.toList ++ upcoming actions
  | _ :: actions => upcoming actions

/-- A turn sends what is missing before it assigns again or ends. -/
theorem flagAfter_upcoming {v : Stage} {actions : List Action} (h : Completes v actions)
    (hactive : v.active ≠ none) : flagAfter v.flag (upcoming actions) = v.networks := by
  have hinformed : v.Informed → v.flag = v.networks := fun h => h.resolve_left hactive
  induction actions generalizing v with
  | nil =>
    obtain ⟨v', ⟨⟩, hr⟩ := h
    exact hinformed hr.informed
  | cons a actions ih =>
    obtain ⟨v', hv', hr⟩ := h
    obtain ⟨u, hu, hv'⟩ := after_cons.mp hv'
    have hrest : u.active ≠ none → flagAfter u.flag (upcoming actions) = u.networks :=
      fun hne => ih ⟨v', hv', hr⟩ hne fun h => h.resolve_left hne
    cases a with
    | setActive active =>
      cases active with
      | none =>
        obtain ⟨⟨-, h⟩, -⟩ := Option.ite_none_right_eq_some.mp hu
        exact hinformed h
      | some active =>
        obtain ⟨⟨h, -⟩, -⟩ := Option.ite_none_right_eq_some.mp hu
        exact hinformed h
    | setState state | publish origin state | clearCallback connection =>
      cases hu
      exact hrest hactive
    | request connection r =>
      obtain ⟨-, ⟨⟩⟩ := Option.ite_none_right_eq_some.mp hu
      exact (flagAfter_append ..).trans (hrest hactive)
    | join connection =>
      obtain ⟨-, ⟨⟩⟩ := Option.ite_none_right_eq_some.mp hu
      exact hrest hactive
    | unixConnect config tunFd =>
      obtain ⟨⟨hnone, -⟩, -⟩ := Option.ite_none_right_eq_some.mp hu
      exact absurd hnone hactive

/-- **The flag agrees with the manager's view.** In every interleaving: what the native flag of the
active connection will be, with the queued events applied and those that the main thread is in the
middle of sending, is whether the connection has validated networks. Between two turns the queued
events are all there is, and when there are none the flag itself agrees. -/
theorem flag_agrees (l : List Event) (s : State) (active : ActiveConnection)
    (h : after State.step .initial l = some s)
    (ha : s.manager.activeConnection = some active) :
    let native := s.natives active.connection
    ((informed native.handler (queued native.queue ++ upcoming s.main)).networkAvailable = true ↔
      active.validatedNetworks.Nonempty) ∧
    (s.main = [] →
      ((informed native.handler (queued native.queue)).networkAvailable = true ↔
        active.validatedNetworks.Nonempty)) ∧
    (s.main = [] → queued native.queue = [] →
      (native.handler.networkAvailable = true ↔ active.validatedNetworks.Nonempty)) := by
  intro native
  have hagrees : (informed native.handler
      (queued native.queue ++ upcoming s.main)).networkAvailable = true ↔
        active.validatedNetworks.Nonempty := by
    obtain ⟨v, hv⟩ := sound_of_run h
    have hactive := hv.describes.active_eq ha
    have hflag : native.flag = v.flag := hv.natives.flag _ (hv.natives.current _ hactive)
    have hnetworks : flagAfter v.flag (upcoming s.main) = v.networks :=
      flagAfter_upcoming hv.completes (by simp [hactive])
    rw [informed_networkAvailable, flagAfter_append]
    change flagAfter native.flag (upcoming s.main) = true ↔ _
    rw [hflag, hnetworks, hv.describes.networks active ha, decide_eq_true_iff]
  have hidle : s.main = [] → ((informed native.handler (queued native.queue)).networkAvailable =
      true ↔ active.validatedNetworks.Nonempty) := by
    intro hmain
    rw [hmain] at hagrees
    simpa [upcoming] using hagrees
  refine ⟨hagrees, hidle, fun hmain hqueue => ?_⟩
  have hdrained := hidle hmain
  rw [hqueue] at hdrained
  exact hdrained

/-- A network is lost while the connection is being built: `DOWN` is queued behind nothing. -/
def networkLost : List Event :=
  [.call (.connect withoutAgent ⟨.ok 3, {1}, 0⟩), .act, .act, .call (.validatedNetworks ∅), .act,
   .act]

theorem networkLost_agrees :
    ∃ s active, after State.step .initial networkLost = some s ∧ s.main.isEmpty = true ∧
      s.manager.activeConnection = some active ∧
      ((informed (s.natives active.connection).handler
          (queued (s.natives active.connection).queue)).networkAvailable = true ↔
        active.validatedNetworks.Nonempty) := by
  have hrun : (after State.step .initial networkLost).map
      (fun s => (s.main.isEmpty, s.manager.activeConnection.isSome)) = some (true, true) := by
    decide +kernel
  obtain ⟨s, hs, hp⟩ := Option.map_eq_some_iff.mp hrun
  have hmain : s.main.isEmpty = true := congrArg Prod.fst hp
  have hsome : s.manager.activeConnection.isSome = true := congrArg Prod.snd hp
  obtain ⟨active, ha⟩ := Option.isSome_iff_exists.mp hsome
  exact ⟨s, active, hs, hmain, ha,
    (flag_agrees networkLost s active hs ha).2.1 (List.isEmpty_iff.mp hmain)⟩

/-! ## The loop -/

/-- The messages that a run receives. -/
def messages {σ : Type} (past : List (Obs × σ)) : List PvpnMessage :=
  past.filterMap fun x => Threads.messageOf x.1

theorem queued_messages {σ : Type} (past : List (Obs × σ)) :
    queued (messages past) = past.filterMap fun x => x.1.connectivity := by
  unfold queued messages
  rw [List.filterMap_filterMap]
  congr 1
  funext x
  obtain ⟨o, s⟩ := x
  cases o with
  | recv m => cases m <;> rfl
  | _ => rfl

/-- **The native flag is the flag of the connection loop**: every run of the code ends with the
flag that a native connection opened with the same configuration has once it has read the messages
of that run. -/
theorem native_flag_of_exec {E S X F : Type} (d : PvpnDependencies E S X F)
    (cfg : Protun.InitialConfig) (streams : S) (env : E) (n : Nat)
    (config : InitialConnectionConfig) (hc : config.networkAvailable = cfg.networkAvailable) :
    (PvpnConnection.exec d cfg streams env n).2.now.conn.networkRecoveryHandler.networkAvailable =
      ({ Native.opened config with
        queue := messages (PvpnConnection.exec d cfg streams env n).2.past } : Native).flag := by
  rw [PvpnConnection.exec_networkAvailable, ← queued_messages, ← hc]
  rfl

end Protun.Android
