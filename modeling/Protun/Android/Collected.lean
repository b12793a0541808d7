import Protun.Android.Service

/-!
# The networks of the active connection

A connection is opened with `networkObserver.validatedNetworks.value` of that moment, whatever the
collector of `init` has been given. So `validatedNetworks` of the active connection is a copy of the
flow, read once and from then on brought up to date by the collector.

* **`Host.simulates`**: a `Host` runs as a `Mirror` of the flow. Opening a connection reads the
  flow, forgetting the connection drops the copy, and the collector's turn updates it.
* **`networks_agree`**: with nothing left to do, the native side knows whether there is a validated
  network iff the connection was not opened ahead of the collector.
* `openedAhead_disagrees`: otherwise it can be left with a network that is gone.
-/

namespace Protun.Android

open Trace Kotlin

/-! ## Where a turn opens a connection -/

/-- A native connection is opened at the end of a turn, and then active. -/
def opensLast : List Action → Bool
  | [] => true
  | .unixConnect _ _ :: actions =>
    match actions with
    | [.setActive (some _)] => true
    | _ => false
  | _ :: actions => opensLast actions

theorem opensLast_append {l : List Action} (h : opens l = false) (l' : List Action) :
    opensLast (l ++ l') = opensLast l' := by
  induction l with
  | nil => rfl
  | cons a l ih => cases a <;> first | exact ih h | cases h

theorem opensLast_of_not_opens {l : List Action} (h : opens l = false) : opensLast l = true := by
  rw [← List.append_nil l, opensLast_append h]
  rfl

theorem opensLast_tail {a : Action} {l : List Action} (h : opensLast (a :: l) = true) :
    opensLast l = true := by
  cases a with
  | unixConnect config tunFd =>
    simp only [opensLast] at h
    split at h
    · rfl
    · cases h
  | _ => exact h

theorem opensLast_start (m : Manager) (config : InitialConfig) (answers : Answers) :
    opensLast (m.start config answers) = true := by
  unfold Manager.start
  split <;> rfl

theorem opensLast_connect (m : Manager) (config : InitialConfig) (answers : Answers) :
    opensLast (m.connect config answers) = true := by
  unfold Manager.connect
  split
  · exact opensLast_start m config answers
  · next active ha =>
    split
    · next settings _ _ =>
      rcases Manager.reconfigure_outcome ha config settings answers with h | ⟨reason, h⟩
      · exact opensLast_of_not_opens h.opens
      · exact opensLast_of_not_opens h.opens
    · rw [opensLast_append (m.ended_clearConnection m _).opens]
      exact opensLast_start m config answers

theorem opensLast_turn (m : Manager) (t : Turn) : opensLast (t.actions m) = true := by
  cases t with
  | task t =>
    exact opensLast_of_not_opens (m.onProTunStateChange_outcome t.origin t.proTunState).1
  | call c =>
    cases c with
    | connect config answers => exact opensLast_connect m config answers
    | clearConnection endState =>
      exact opensLast_of_not_opens (m.ended_clearConnection m endState).opens
    | updateInterfaceConfig config answers =>
      rcases m.updateInterfaceConfig_outcome config answers with ⟨reason, h⟩ | h
      · exact opensLast_of_not_opens h.opens
      · exact opensLast_of_not_opens h.opens
    | setPacketCaptureEnabled info =>
      have h := m.kept_onActive (Manager.captureRequest info)
      rw [← Manager.setPacketCaptureEnabled_eq] at h
      exact opensLast_of_not_opens h.opens
    | validatedNetworks networks =>
      exact opensLast_of_not_opens (m.onValidatedNetworks_outcome networks).1
    | updatePeers | updateLocalAgentSettings | update | provideApiForkSelector
    | requestLocalAgentStats | requestConnectionStats =>
      exact opensLast_of_not_opens (m.kept_onActive _).opens

theorem opensLast_run {l : List Event} {s : State} (h : after State.step .initial l = some s) :
    opensLast s.main = true := by
  refine after_inv (I := fun s : State => opensLast s.main = true) h rfl
    fun s e s' hstep hs => ?_
  cases State.moves hstep with
  | call c hidle => exact opensLast_turn s.manager (.call c)
  | runTask hidle htasks => exact opensLast_turn s.manager (.task _)
  | act hmain heffect => exact opensLast_tail (hmain ▸ hs)
  | native hn => exact hs
  | launch hr => exact hs

/-- Where the next action opens a connection, `connect` has read the networks for it. -/
theorem opens_tail_of_not_reads {a : Action} {l : List Action} (h : opensLast (a :: l) = true)
    (hreads : reads (a :: l) = none) : opens l = opens (a :: l) := by
  cases a with
  | unixConnect config tunFd =>
    simp only [opensLast] at h
    split at h
    · cases hreads
    · cases h
  | _ => rfl

namespace Host

/-- The flow of validated networks and the copy in the active connection. A connection about to be
opened has none yet. -/
def mirror (h : Host) : Mirror (Finset Network) :=
  ⟨h.networks, if opens h.system.main then none else h.system.settled.networks, h.ahead⟩

/-- The copy between two turns. -/
theorem mirror_of_idle {h : Host} (hidle : h.system.main = []) :
    h.mirror = ⟨h.networks, h.system.manager.networks, h.ahead⟩ := by
  rw [mirror, State.settled_of_idle hidle, hidle]
  rfl

/-- The copy that a turn leaves. -/
def copyAfter (m : Manager) (actions : List Action) : Option (Finset Network) :=
  if opens actions then none else (m.perform actions).networks

theorem copyAfter_kept {m : Manager} {actions : List Action} (h : m.Kept actions) :
    copyAfter m actions = m.networks := by
  simp [copyAfter, h.opens, h.networks]

theorem copyAfter_ended {m : Manager} {actions : List Action} {endState : VpnConnectionState}
    (h : m.Ended actions endState) : copyAfter m actions = none := by
  simp [copyAfter, h.opens, Manager.networks_eq_none_iff, h.active]

/-- A command keeps the copy or drops it. -/
theorem copyAfter_onStartCommand (m : Manager) (s : ProTunVpnService) (answers : Answers)
    (intent : Intent) :
    let actions := (s.onStartCommand m answers intent).1.elim [] fun c => c.actions m
    copyAfter m actions = m.networks ∨ copyAfter m actions = none := by
  cases intent with
  | restored | serviceInterface | other => exact .inl (copyAfter_kept m.kept_nil)
  | vpnAction action =>
    cases action with
    | connect config =>
      rcases m.connect_outcome config answers with ho | ⟨reason, he⟩ | ⟨-, hk⟩
      · exact .inr (if_pos ho.opens)
      · exact .inr (copyAfter_ended he)
      · exact .inl (copyAfter_kept hk)
    | disconnect => exact .inr (copyAfter_ended (m.ended_clearConnection m _))
    | update update =>
      simp only [ProTunVpnService.onStartCommand]
      split
      · rcases m.update_outcome answers update with ⟨reason, he⟩ | hk
        · exact .inr (copyAfter_ended he)
        · exact .inl (copyAfter_kept hk)
      · exact .inl (copyAfter_kept m.kept_nil)

/-- Opening a connection reads the flow. -/
theorem simulates_unixConnect {h : Host} {system : State}
    (hlast : opensLast h.system.main = true)
    (hreads : reads h.system.main = some h.networks.value)
    (hstep : h.system.step .act = some system) :
    Mirror.step h.mirror .read =
      some (mirror { h with system, ahead := decide (h.networks.emitted ≠ some h.networks.value) })
      := by
  cases State.moves hstep with
  | @act a main natives hmain heffect =>
    rw [hmain] at hreads hlast
    unfold reads at hreads
    split at hreads
    · next config tunFd active rest heq =>
      obtain ⟨rfl, rfl⟩ := List.cons.inj heq
      cases rest with
      | nil =>
        change some (Mirror.mk _ (some h.networks.value) _) =
          some (Mirror.mk _ (some active.validatedNetworks) _)
        rw [Option.some.inj hreads]
        rfl
      | cons => cases hlast
    · cases hreads

/-- Any other step of the system leaves the copy alone. -/
theorem mirror_system {h : Host} {e : Event} {system : State}
    (hlast : opensLast h.system.main = true) (hcall : ∀ c, e ≠ .call c)
    (hreads : e = .act → reads h.system.main = none) (hstep : h.system.step e = some system) :
    mirror { h with system } = h.mirror := by
  cases State.moves hstep with
  | call c hidle => exact absurd rfl (hcall c)
  | @runTask t tasks hidle htasks =>
    obtain ⟨hopens, hactive, -⟩ :=
      h.system.manager.onProTunStateChange_outcome t.origin t.proTunState
    rw [mirror_of_idle hidle]
    change Mirror.mk _ (copyAfter _ (Manager.onProTunStateChange _ _ _)) _ = _
    simp [copyAfter, hopens, Manager.networks, hactive]
  | act hmain heffect =>
    have hopens := opens_tail_of_not_reads (hmain ▸ hlast) (hmain ▸ hreads rfl)
    simp only [mirror, State.settled, hmain, hopens]
    rfl
  | native hn => rfl
  | launch hr => rfl

/-- A turn that keeps the copy or drops it. -/
theorem simulates_turn {h : Host} {actions : List Action} (hidle : h.system.main = [])
    (hcopy : copyAfter h.system.manager actions = h.system.manager.networks ∨
      copyAfter h.system.manager actions = none) :
    ∃ l, after Mirror.step h.mirror l =
      some (Mirror.mk h.networks (copyAfter h.system.manager actions) h.ahead) := by
  rw [mirror_of_idle hidle]
  rcases hcopy with hcopy | hcopy
  · exact ⟨[], by rw [hcopy]; rfl⟩
  · exact ⟨[.drop], by rw [hcopy]; rfl⟩

/-- The collector is resumed. -/
theorem simulates_collect {h : Host} {v : Finset Network} {networks : StateFlow (Finset Network)}
    (hidle : h.system.main = []) (hr : h.networks.resume = some (some v, networks)) :
    Mirror.step h.mirror .resume =
      some ⟨networks, copyAfter h.system.manager (h.system.manager.onValidatedNetworks v),
        false⟩ := by
  obtain ⟨hopens, hnetworks, -⟩ := h.system.manager.onValidatedNetworks_outcome v
  rw [mirror_of_idle hidle]
  simp [Mirror.step, hr, copyAfter, hopens, hnetworks]

/-- **A host runs as a mirror of its flow.** -/
theorem simulates {h h' : Host} {e : HostEvent} (hm : HostMoves h e h')
    (hlast : opensLast h.system.main = true) :
    ∃ l, after Mirror.step h.mirror l = some h'.mirror := by
  cases hm with
  | callback c => exact ⟨[.set _], rfl⟩
  | onCreate hidle hs => exact ⟨[.launch], rfl⟩
  | @onStartCommand intent answers call service service' hidle hs hc =>
    have hcopy := copyAfter_onStartCommand h.system.manager service answers intent
    rw [hc] at hcopy
    exact simulates_turn hidle hcopy
  | onRevoke hidle hs =>
    exact simulates_turn hidle (.inr (copyAfter_ended (Manager.ended_clearConnection _ _ _)))
  | onDestroy hidle hs =>
    obtain ⟨l, hl⟩ := simulates_turn hidle
      (.inr (copyAfter_ended (h.system.manager.ended_clearConnection _ (.disconnected none))))
    exact ⟨l ++ [.cancel], after_snoc.mpr ⟨_, hl, rfl⟩⟩
  | collectNothing hidle hr =>
    exact ⟨[.resume], after_cons.mpr ⟨_, by simp only [Mirror.step, mirror, hr]; rfl, rfl⟩⟩
  | collect hidle hr => exact ⟨[.resume], after_cons.mpr ⟨_, simulates_collect hidle hr, rfl⟩⟩
  | unixConnect hreads hstep =>
    exact ⟨[.read], after_cons.mpr ⟨_, simulates_unixConnect hlast hreads hstep, rfl⟩⟩
  | system hcall hreads hstep =>
    exact ⟨[], congrArg some (mirror_system hlast hcall hreads hstep).symm⟩

theorem tracks_run {l : List HostEvent} {h : Host} (hrun : after Host.step .initial l = some h) :
    h.mirror.Tracks := by
  refine (after_inv (I := fun h : Host => h.mirror.Tracks ∧
    ∃ l', after State.step .initial l' = some h.system) hrun
    ⟨Mirror.tracks_new ∅ true, [], rfl⟩ ?_).1
  rintro h e h' hstep ⟨htracks, l', hl'⟩
  have hm := Host.moves hstep
  obtain ⟨k, hk⟩ := simulates hm (opensLast_run hl')
  exact ⟨htracks.of_after hk, hm.reachable ⟨l', hl'⟩⟩

end Host

/-- The calls of the observer in a run. -/
def callbacks (l : List HostEvent) : List NetworkCallback :=
  l.filterMap fun
    | .callback c => some c
    | _ => none

/-- Only the observer assigns to its flow. -/
theorem HostMoves.networks_value {h h' : Host} {e : HostEvent} (hm : HostMoves h e h') :
    h'.networks.value = (callbacks [e]).foldl NetworkCallback.apply h.networks.value := by
  cases hm with
  | callback c => exact StateFlow.value_set _ _
  | collectNothing hidle hr => rw [(StateFlow.resume_eq_some hr).1]; rfl
  | collect hidle hr => rw [(StateFlow.resume_eq_some hr).1]; rfl
  | onCreate | onStartCommand | onRevoke | onDestroy | unixConnect | system => rfl

theorem networks_value_run {l : List HostEvent} {h : Host}
    (hrun : after Host.step .initial l = some h) : h.networks.value = observed (callbacks l) := by
  induction l using List.reverseRecOn generalizing h with
  | nil =>
    cases hrun
    rfl
  | append_singleton l e ih =>
    obtain ⟨u, hu, hstep⟩ := after_snoc.mp hrun
    rw [(Host.moves hstep).networks_value, ih hu, observed, observed, ← List.foldl_append]
    simp [callbacks]

/-- Between two turns the flag that the active connection will have says whether it has validated
networks. -/
theorem flag_of_idle {l : List Event} {s : State} {active : ActiveConnection}
    (h : after State.step .initial l = some s) (hidle : s.main = [])
    (ha : s.manager.activeConnection = some active) :
    (s.natives active.connection).flag = decide active.validatedNetworks.Nonempty := by
  obtain ⟨v, hv⟩ := sound_of_run h
  obtain ⟨v', hv', hr⟩ := hv.completes
  rw [hidle] at hv'
  cases hv'
  have hactive := hv.describes.active_eq ha
  rw [hv.natives.flag _ (hv.natives.current _ hactive), ← hv.describes.networks active ha]
  exact hr.informed.resolve_left (by simp [hactive])

/-- **The native side knows whether there is a network, unless its connection was opened ahead of
the collector.** Between two turns, when the collector waits: the active connection has the networks
that the observer has iff it was not opened with networks the collector had not been given, or the
collector has been given something since; and then, once its messages are read, its network flag
says whether the last callback about some network found it validated. -/
theorem networks_agree (l : List HostEvent) (h : Host) (active : ActiveConnection)
    (hrun : after Host.step .initial l = some h) (hidle : h.system.main = [])
    (hquiet : h.networks.Quiet) (ha : h.system.manager.activeConnection = some active) :
    let native := h.system.natives active.connection
    (active.validatedNetworks = observed (callbacks l) ↔ h.ahead = false) ∧
    (h.ahead = false → queued native.queue = [] →
      (native.handler.networkAvailable = true ↔ ∃ n, Validated (callbacks l) n)) := by
  intro native
  have hcopy : h.mirror.copy = some active.validatedNetworks := by
    rw [Host.mirror_of_idle hidle]
    simp [Manager.networks, ha]
  have hagree : active.validatedNetworks = observed (callbacks l) ↔ h.ahead = false := by
    rw [← networks_value_run hrun]
    exact (Host.tracks_run hrun).copy_eq_value_iff hquiet hcopy
  refine ⟨hagree, fun hahead hqueue => ?_⟩
  obtain ⟨l', hl'⟩ := Host.system_run hrun
  have hflag : native.handler.networkAvailable = decide active.validatedNetworks.Nonempty := by
    rw [← flag_of_idle hl' hidle ha, Native.flag, hqueue]
    rfl
  rw [hflag, hagree.mpr hahead, decide_eq_true_iff]
  exact exists_congr fun n => mem_observed_iff (callbacks l) n

/-- A network is validated, and the collector is given it before the connection is opened. -/
def openedInStep : List HostEvent :=
  [.callback (.onAvailable 1 (some ⟨true, true⟩)), .onCreate, .collect,
   .onStartCommand (.vpnAction (.connect withoutAgent)) ⟨.ok 3, {1}, 0⟩, .system .act,
   .system .act]

/-- A connection is opened as soon as a network is validated, ahead of the collector, and the
network is lost before the collector is resumed. -/
def openedAhead : List HostEvent :=
  [.onCreate, .collect, .callback (.onAvailable 1 (some ⟨true, true⟩)),
   .onStartCommand (.vpnAction (.connect withoutAgent)) ⟨.ok 3, {1}, 0⟩, .system .act,
   .system .act, .callback (.onLost 1), .collect]

/-- Nothing is left to do: no turn, no value for the collector, no connectivity event. -/
def Host.AtRest (h : Host) (active : ActiveConnection) : Prop :=
  h.system.main.isEmpty = true ∧ h.networks.Quiet ∧
    (queued (h.system.natives active.connection).queue).isEmpty = true

instance (h : Host) (active : ActiveConnection) : Decidable (h.AtRest active) :=
  inferInstanceAs (Decidable (_ ∧ _ ∧ _))

theorem openedInStep_agrees :
    ∃ h active, after Host.step .initial openedInStep = some h ∧
      h.system.manager.activeConnection = some active ∧
      ((h.system.natives active.connection).handler.networkAvailable = true ↔
        ∃ n, Validated (callbacks openedInStep) n) := by
  have hrun : (after Host.step .initial openedInStep).bind (fun h =>
      h.system.manager.activeConnection.map fun active => (decide (h.AtRest active), h.ahead)) =
        some (true, false) := by
    decide +kernel
  obtain ⟨h, hh, hview⟩ := Option.bind_eq_some_iff.mp hrun
  obtain ⟨active, ha, hp⟩ := Option.map_eq_some_iff.mp hview
  obtain ⟨hidle, hquiet, hqueue⟩ := of_decide_eq_true (congrArg Prod.fst hp)
  exact ⟨h, active, hh, ha, (networks_agree openedInStep h active hh (List.isEmpty_iff.mp hidle)
    hquiet ha).2 (congrArg Prod.snd hp) (List.isEmpty_iff.mp hqueue)⟩

/-- The native side is left with a network that is gone. -/
theorem openedAhead_disagrees :
    (after Host.step .initial openedAhead).bind (fun h =>
      h.system.manager.activeConnection.map fun active =>
        (decide (h.AtRest active), active.validatedNetworks,
          (h.system.natives active.connection).handler.networkAvailable)) =
      some (true, {1}, true) ∧ observed (callbacks openedAhead) = ∅ := by
  decide +kernel

end Protun.Android
