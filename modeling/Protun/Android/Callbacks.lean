import Protun.Android.System

/-!
# Whose state is published

A native thread reports a state in two halves: it gets the manager out of the callback's weak
reference, and it launches a task on the main dispatcher. `ActiveConnection.clear` clears the
reference and waits for the thread, so that nothing is launched by a connection that has been
cleared. But a task that was launched before stays on the dispatcher, and it only checks that there
is *an* active connection. If `connect` opens another connection in the meantime, the task publishes
the old connection's state.

* `State.publishing`: the connection whose state is written next by `onProTunStateChange`.
* **`published_by_active`**: in every run in which a connection is only opened while no task is
  queued (`State.calmStep`), what is published was reported by the active connection.
* `stale_state_published`: a run in which a connection that has been cleared is shown as the new
  one's.
-/

namespace Protun.Android

open Trace

/-- The connection that reported the state which the main thread is about to publish. -/
def State.publishing (s : State) : Option Nat :=
  match s.main with
  | .publish origin _ :: _ => some origin
  | _ => none

/-- The step opens a native connection. -/
def State.opens (s : State) : Event → Bool
  | .act =>
    match s.main with
    | .unixConnect _ _ :: _ => true
    | _ => false
  | _ => false

/-- The steps in which no connection is opened while a task is queued. -/
def State.calmStep (s : State) (e : Event) : Option State :=
  if s.opens e = true ∧ s.tasks ≠ [] then none else s.step e

theorem State.step_of_calmStep {s s' : State} {e : Event} (h : s.calmStep e = some s') :
    s.step e = some s' ∧ (s.opens e = true → s.tasks = []) := by
  unfold calmStep at h
  split at h
  · cases h
  · next hcalm => exact ⟨h, fun hopens => by_contra fun htasks => hcalm ⟨hopens, htasks⟩⟩

/-! ## Only a task publishes -/

def Action.isPublish : Action → Bool
  | .publish _ _ => true
  | _ => false

/-- A turn that never publishes. -/
def Silent (actions : List Action) : Prop := ∀ a ∈ actions, a.isPublish = false

theorem silent_nil : Silent [] := fun _ h => absurd h List.not_mem_nil

theorem silent_cons {a : Action} {l : List Action} (ha : a.isPublish = false) (hl : Silent l) :
    Silent (a :: l) := by
  intro b hb
  rcases List.mem_cons.mp hb with rfl | hb
  · exact ha
  · exact hl b hb

theorem silent_append {l l' : List Action} (hl : Silent l) (hl' : Silent l') :
    Silent (l ++ l') := fun a ha => (List.mem_append.mp ha).elim (hl a) (hl' a)

section Calls

variable (m : Manager)

theorem silent_onActive (r : Request) : Silent (m.onActive r) := by
  unfold Manager.onActive
  split
  · exact silent_nil
  · exact silent_cons rfl silent_nil

theorem silent_setPacketCaptureEnabled (info : Option PacketCaptureInfo) :
    Silent (m.setPacketCaptureEnabled info) := by
  cases info <;> exact silent_onActive m _

theorem silent_clearConnection (endState : VpnConnectionState) :
    Silent (m.clearConnection endState) := by
  refine silent_append ?_ (silent_cons rfl (silent_cons rfl silent_nil))
  split
  · exact silent_nil
  · exact silent_cons rfl (silent_cons rfl (silent_cons rfl silent_nil))

theorem silent_start (config : InitialConfig) (answers : Answers) :
    Silent (m.start config answers) := by
  unfold Manager.start
  split
  · exact silent_cons rfl silent_nil
  · exact silent_cons rfl (silent_cons rfl silent_nil)

theorem silent_connect (config : InitialConfig) (answers : Answers) :
    Silent (m.connect config answers) := by
  unfold Manager.connect
  split
  · exact silent_start m config answers
  · split
    · refine silent_cons rfl ?_
      split
      · exact silent_clearConnection m _
      · refine silent_append (silent_onActive m _) ?_
        split
        · exact silent_setPacketCaptureEnabled m _
        · exact silent_nil
    · exact silent_append (silent_clearConnection m _) (silent_start m config answers)

theorem silent_call (c : Call) : Silent (c.actions m) := by
  cases c with
  | connect config answers => exact silent_connect m config answers
  | clearConnection endState => exact silent_clearConnection m endState
  | setPacketCaptureEnabled info => exact silent_setPacketCaptureEnabled m info
  | updateInterfaceConfig interfaceConfig answers =>
    change Silent (m.updateInterfaceConfig interfaceConfig answers)
    unfold Manager.updateInterfaceConfig
    split
    · exact silent_nil
    · split
      · exact silent_clearConnection m _
      · exact silent_cons rfl silent_nil
  | validatedNetworks networks =>
    change Silent (m.onValidatedNetworks networks)
    unfold Manager.onValidatedNetworks
    split
    · exact silent_nil
    · split
      · exact silent_cons rfl (silent_cons rfl silent_nil)
      · exact silent_nil
  | updatePeers | updateLocalAgentSettings | update | provideApiForkSelector
  | requestLocalAgentStats | requestConnectionStats => exact silent_onActive m _

end Calls

/-! ## The invariant -/

/-- The number of the active connection. -/
def Manager.activeNumber (m : Manager) : Option Nat :=
  m.activeConnection.map ActiveConnection.connection

/-- Every task on the dispatcher is of the connection opened last, and what is being published is of
the active connection. -/
structure Fresh (s : State) : Prop where
  tasks : ∀ t ∈ s.tasks, t.origin + 1 = s.manager.connections.length
  publishes : Silent s.main ∨ ∃ origin state, s.main = [.publish origin state] ∧
    s.manager.activeNumber = some origin

namespace Fresh

variable {s s' : State} {v : Stage}

/-- Only opening a connection changes how many there are. -/
theorem connections_length (m : Manager) {a : Action}
    (ha : ∀ config tunFd, a ≠ .unixConnect config tunFd) :
    (m.act a).connections.length = m.connections.length := by
  cases a with
  | unixConnect config tunFd => exact absurd rfl (ha config tunFd)
  | request connection r => exact List.length_modify ..
  | setActive | setState | publish | clearCallback | join => rfl

theorem act {a : Action} {main : List Action} {natives : Nat → Native} (h : Fresh s)
    (hmain : s.main = a :: main) (hcalm : s.opens .act = true → s.tasks = []) :
    Fresh { s with manager := s.manager.act a, main := main, natives := natives } where
  tasks t ht := by
    by_cases hopens : ∃ config tunFd, a = .unixConnect config tunFd
    · -- nothing is queued when a connection is opened
      obtain ⟨config, tunFd, rfl⟩ := hopens
      have hnone : s.tasks = [] := hcalm (by simp [State.opens, hmain])
      change t ∈ s.tasks at ht
      rw [hnone] at ht
      cases ht
    · have hlength := connections_length s.manager fun config tunFd heq =>
        hopens ⟨config, tunFd, heq⟩
      exact (h.tasks t ht).trans hlength.symm
  publishes := by
    rcases h.publishes with hsilent | ⟨origin, state, hpublish, -⟩
    · rw [hmain] at hsilent
      exact .inl fun b hb => hsilent b (List.mem_cons_of_mem a hb)
    · rw [hmain] at hpublish
      cases hpublish
      exact .inl silent_nil

/-- The task finds the connection that reported the state, or none. -/
theorem runTask {t : Task} {tasks : List Task} (h : Fresh s) (hs : Sound s v)
    (htasks : s.tasks = t :: tasks) :
    Fresh { s with main := Turn.actions s.manager (.task t), tasks := tasks } where
  tasks t' ht' := h.tasks t' (by rw [htasks]; exact List.mem_cons_of_mem t ht')
  publishes := by
    have horigin := h.tasks t (by simp [htasks])
    cases ha : s.manager.activeConnection with
    | none =>
      refine .inl ?_
      change Silent (s.manager.onProTunStateChange t.origin t.proTunState)
      unfold Manager.onProTunStateChange
      rw [ha]
      exact silent_nil
    | some active =>
      have hcurrent := hs.natives.current _ (hs.describes.active_eq ha)
      have hopened := hs.describes.opened
      have hsame : active.connection = t.origin := by omega
      have hmain : s.manager.onProTunStateChange t.origin t.proTunState =
          [.publish t.origin ⟨t.proTunState.interfaceState,
            stateToCoreApi active.startedAt t.proTunState.connectionState⟩] := by
        unfold Manager.onProTunStateChange
        rw [ha]
      refine .inr ⟨t.origin, _, hmain, ?_⟩
      change s.manager.activeConnection.map ActiveConnection.connection = _
      rw [ha, ← hsame]
      rfl

theorem step {e : Event} (hm : Moves s e s') (hcalm : s.opens e = true → s.tasks = [])
    (hs : Sound s v) (h : Fresh s) : Fresh s' := by
  cases hm with
  | call c hidle => exact ⟨h.tasks, .inl (silent_call s.manager c)⟩
  | runTask hidle htasks => exact h.runTask hs htasks
  | act hmain heffect => exact h.act hmain hcalm
  | native hn => exact ⟨h.tasks, h.publishes⟩
  | @launch i state hr =>
    refine ⟨fun t ht => ?_, h.publishes⟩
    rcases List.mem_append.mp ht with ht | ht
    · exact h.tasks t ht
    · -- a thread that reports has not ended, so it is that of the connection opened last
      obtain rfl := List.mem_singleton.mp ht
      have halive : (s.natives i).thread ≠ .ended := by
        intro hended
        cases hr.symm.trans (hs.natives.quiet i (.inr hended))
      exact (hs.natives.last i halive).trans hs.describes.opened

end Fresh

theorem fresh_of_run {l : List Event} {s : State} (h : after State.calmStep .initial l = some s) :
    (∃ v, Sound s v) ∧ Fresh s := by
  refine after_inv (I := fun s => (∃ v, Sound s v) ∧ Fresh s) h
    ⟨⟨_, sound_initial⟩, fun _ ht => absurd ht List.not_mem_nil, .inl silent_nil⟩ ?_
  rintro s e s' hstep ⟨⟨v, hs⟩, hfresh⟩
  obtain ⟨hstep, hcalm⟩ := State.step_of_calmStep hstep
  exact ⟨hs.step (State.moves hstep), hfresh.step (State.moves hstep) hcalm hs⟩

/-- **What is published was reported by the active connection**, in every run in which no
connection is opened while a task is queued. -/
theorem published_by_active (l : List Event) (s : State) (origin : Nat)
    (h : after State.calmStep .initial l = some s) (hp : s.publishing = some origin) :
    s.manager.activeNumber = some origin := by
  unfold State.publishing at hp
  split at hp
  · next origin' state rest hmain =>
    cases hp
    rcases (fresh_of_run h).2.publishes with hsilent | ⟨_, _, hpublish, hactive⟩
    · rw [hmain] at hsilent
      cases hsilent _ List.mem_cons_self
    · rw [hmain] at hpublish
      cases hpublish
      exact hactive
  · cases hp

/-! ## A stale state -/

/-- A configuration without a local agent, so that every `connect` starts anew. -/
def withoutAgent : InitialConfig where
  interfaceConfig := { supportInTunnelIPv6 := false }
  peers := []
  packetCaptureInfo := none
  mode := .noLocalAgent (Vector.replicate 32 0)

/-- Connection `i` reports that it is connected, and its task is put on the dispatcher. -/
def reports (i : Nat) : List Event :=
  [.native i (.report ⟨.up none, .connected ⟨"peer", .v4 1, .wireguardUdp, 51820⟩ none⟩),
   .launch i]

/-- The first `connect`: the connection is opened, assigned, and starts its loop. -/
def connectFirst : List Event :=
  [.call (.connect withoutAgent ⟨.ok 3, ∅, 0⟩), .act, .act, .native 0 .created]

/-- The second `connect`: the first connection is cleared, told to disconnect, reads it, ends and is
waited for; then the second one is opened and assigned. -/
def connectAgain : List Event :=
  [.call (.connect withoutAgent ⟨.ok 4, ∅, 0⟩), .act, .act, .native 0 .handle, .native 0 .exit] ++
    List.replicate 5 .act

/-- A state that is published before anything else is opened. -/
theorem first_state_published :
    ∃ s, after State.calmStep .initial (connectFirst ++ reports 0 ++ [.runTask]) = some s ∧
      s.publishing = some 0 ∧ s.manager.activeNumber = some 0 := by
  have hrun : (after State.calmStep .initial (connectFirst ++ reports 0 ++ [.runTask])).map
      State.publishing = some (some 0) := by decide +kernel
  obtain ⟨s, hs, hp⟩ := Option.map_eq_some_iff.mp hrun
  exact ⟨s, hs, hp, published_by_active _ s 0 hs hp⟩

/-- **A cleared connection is shown as connected.** Its task waits on the dispatcher while the
second `connect` clears it and opens the next connection, and then finds that one active. -/
theorem stale_state_published :
    ∃ s, after State.step .initial (connectFirst ++ reports 0 ++ connectAgain ++ [.runTask]) =
        some s ∧
      s.publishing = some 0 ∧ s.manager.activeNumber = some 1 := by
  have hrun : (after State.step .initial
      (connectFirst ++ reports 0 ++ connectAgain ++ [.runTask])).map
        (fun s => (s.publishing, s.manager.activeNumber)) = some (some 0, some 1) := by
    decide +kernel
  obtain ⟨s, hs, hp⟩ := Option.map_eq_some_iff.mp hrun
  exact ⟨s, hs, congrArg Prod.fst hp, congrArg Prod.snd hp⟩

end Protun.Android
