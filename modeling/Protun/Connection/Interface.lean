import Protun.Connection.Script
import Protun.Connection.State

/-!
# The interface half of the delivered state

A `VpnState` has two halves, and `set_state` decides by one of them whether to deliver. The
interface half also moves on its own: a read or write on the TUN device fails or recovers, the TUN
is replaced. `update_state` runs once a round, so it is where the user would learn of it.

* `UpToDate`: the state delivered last is the current one.
* `updateState_upToDate_iff`: one `update_state` from a reachable history leaves it so iff it has
  just delivered or the interface half had not moved.
* `upToDate_iff`: the same at every `update_state` of every run.
* `tun_failure_not_delivered`: a run in which the device fails and the user is not told.
-/

namespace Protun

open Trace

namespace PvpnConnection

open Conn

variable {E S X F : Type} (d : PvpnDependencies E S X F)

/-- The state delivered last, if there was one, is the current state in both halves. -/
def UpToDate (pre : List (Obs × Sys E S F)) (s : Sys E S F) : Prop :=
  ∀ last, lastOf Obs.delivered pre = some last →
    last.connectionState = s.conn.connectionState ∧
    last.interfaceState = d.streams.getTunInterfaceState s.conn.streams s.conn.currentTunError

/-- The interface is as it was delivered last. -/
def InterfaceDelivered (pre : List (Obs × Sys E S F)) (s : Sys E S F) : Prop :=
  ∀ last, lastOf Obs.delivered pre = some last →
    last.interfaceState = d.streams.getTunInterfaceState s.conn.streams s.conn.currentTunError

/-- The tunnel information calls for another connection state than the current one. -/
def StateMoves (info : Option TunnelInfo) (s : Sys E S F) : Prop :=
  (s.conn.getPeerConnectionState info).1 ≠ s.conn.connectionState

/-- After `update_state` the user is up to date iff `update_state` had a new connection state to
deliver or the interface half was as delivered. -/
theorem updateState_upToDate_iff {localAgent : Bool} {h : Hist (Sys E S F) Obs}
    (hI : StateInv localAgent h) :
    UpToDate d (setState d (computedState d h) (observeTunnel d h)).2.past
        (closeUpdate (tunnelNow d h) (setState d (computedState d h) (observeTunnel d h)).2).now ↔
      StateMoves (tunnelNow d h) h.now ∨ InterfaceDelivered d h.past h.now := by
  have hclose : ∀ h' : Hist (Sys E S F) Obs,
      UpToDate d h'.past (closeUpdate (tunnelNow d h) h').now ↔ UpToDate d h'.past h'.now := by
    intro h'
    unfold UpToDate closeUpdate noteConnected
    dsimp only [Hist.emit_now, Hist.set_now]
    split <;> rfl
  rw [hclose, setState_eq, observeTunnel_conn]
  by_cases hs : computedState d h = h.now.conn.connectionState
  · -- nothing is delivered: only the interface half can differ
    rw [if_pos hs]
    have hmoves : ¬ StateMoves (tunnelNow d h) h.now := fun hm => hm hs
    have hlast : lastOf Obs.delivered (observeTunnel d h).past = lastOf Obs.delivered h.past := by
      rw [observeTunnel_past]
      exact lastOf_snoc_none rfl _ _
    unfold UpToDate InterfaceDelivered
    rw [hlast, observeTunnel_conn]
    refine ⟨fun hu => .inr fun last hl => (hu last hl).2, fun hor last hl => ?_⟩
    refine ⟨?_, (hor.resolve_left hmoves) last hl⟩
    rw [hI.current, hl]
    rfl
  · rw [if_neg hs]
    refine ⟨fun _ => .inl hs, fun _ last hl => ?_⟩
    rw [deliver_past] at hl
    rw [lastOf_snoc] at hl
    cases hl
    exact ⟨rfl, rfl⟩

/-- What `upToDate_iff` says of an `update_state`: `start` is where it read the tunnel
information. -/
def UpToDateIff (pre : List (Obs × Sys E S F)) (o : Obs) (s : Sys E S F) : Prop :=
  ∀ info, o = .updated info → ∃ before start mid,
    pre = before ++ (.tunnelInfo info, start) :: mid ∧ (∀ x ∈ mid, x.1.delivered.isSome) ∧
    (UpToDate d pre s ↔ StateMoves info start ∨ InterfaceDelivered d before start)

theorem always_updateState {localAgent : Bool} {h : Hist (Sys E S F) Obs}
    (hI : StateInv localAgent h) (ha : Always (UpToDateIff d) h.past) :
    Always (UpToDateIff d) (updateState d h).2.past := by
  have hiff := updateState_upToDate_iff d hI
  rw [updateState_eq]
  have hmid : ∃ mid, (setState d (computedState d h) (observeTunnel d h)).2.past =
      h.past ++ (.tunnelInfo (tunnelNow d h),
        { h.now with env := (d.client.getTunnelInfo h.now.env).2 }) :: mid ∧
      ∀ x ∈ mid, x.1.delivered.isSome := by
    rw [setState_eq]
    split
    · exact ⟨[], observeTunnel_past d h, by simp⟩
    · exact ⟨_, by rw [deliver_past, observeTunnel_past, List.append_assoc]; rfl,
        by simp [Obs.delivered]⟩
  obtain ⟨mid, hpast, hmid⟩ := hmid
  have hother : ∀ pre o s, o.delivered.isSome ∨ o.tunnelRead.isSome →
      UpToDateIff d pre o s := by
    rintro pre o s ho info rfl
    simp [Obs.delivered, Obs.tunnelRead] at ho
  refine always_snoc.mpr ⟨?_, ?_⟩
  · simp only [Hist.set_past]
    rw [hpast]
    refine always_append ha fun pre o s post heq => hother _ _ _ ?_
    cases pre with
    | nil =>
      obtain ⟨h1, -⟩ := List.cons.inj heq
      cases h1
      exact .inr rfl
    | cons x pre =>
      obtain ⟨-, h2⟩ := List.cons.inj heq
      exact .inl (hmid (o, s) (h2 ▸ by simp))
  · rintro info ⟨⟩
    exact ⟨h.past, _, mid, hpast, hmid, hiff⟩

/-- Nothing but `update_state` makes the observation the statement is about. -/
theorem always_of_extends {Q : Obs → Bool} (hQ : ∀ info, Q (.updated info) = false)
    {h h' : Hist (Sys E S F) Obs} (hx : Extends (fun o _ => Q o = true) h h')
    (ha : Always (UpToDateIff d) h.past) : Always (UpToDateIff d) h'.past := by
  refine hx.always (fun _ o s _ ho info heq => ?_) ha
  rw [heq, hQ] at ho
  cases ho

theorem kept_upToDateIff (localAgent : Bool) :
    Kept d fun h => StateInv localAgent h ∧ Always (UpToDateIff d) h.past :=
  .of_background
    (fun _ _ hb hI => ⟨hI.1.silent hb.silent, always_of_extends d (fun _ => rfl) hb.observed hI.2⟩)
    (fun h hI => ⟨inv_receiveMessage d h hI.1,
      always_of_extends d (fun _ => rfl) (api_receiveMessage d h).observed hI.2⟩)
    (fun h hI => ⟨inv_updateState d h hI.1, always_updateState d hI.1 hI.2⟩)
    (fun h hI => ⟨(inv_onConnectionLoopEnd d hI.1).1,
      always_of_extends d (fun _ => rfl) (api_onConnectionLoopEnd d h).observed hI.2⟩)

/-- **When the user is up to date.** At every `update_state` of every run the state delivered last
is the current one iff the connection state moved in that `update_state` or the interface was as
delivered. -/
theorem upToDate_iff (cfg : InitialConfig) (streams : S) (env : E) (n : Nat) :
    Always (UpToDateIff d) (exec d cfg streams env n).2.past := by
  refine ((?_ : Prog.Inv (fun h => StateInv cfg.localAgentSettings.isSome h ∧
    Always (UpToDateIff d) h.past) _) _ ⟨stateInv_initial d cfg streams env, always_nil⟩).2
  refine Prog.inv_bind (fun h hI => ⟨inv_new d cfg h hI.1, ?_⟩)
    fun _ => (kept_upToDateIff d _).run n
  exact always_of_extends d (fun _ => rfl) (api_new d cfg h).observed hI.2

end PvpnConnection

namespace Script

/-- The tunnel is up and stays up; the TUN device fails at its first read. -/
def tunFailure : Script where
  messages := [none, none, some .disconnect]
  tunnels := [tunnel "P", tunnel "P"]
  polls := [[{ streamId := 0, isReadable := true, isWritable := false, isError := false }], []]
  reads := [(.err { kind := .other, message := "device gone" }, [])]

/-- The second `update_state` of that run leaves the user with the interface state of the first. -/
theorem tun_failure_not_delivered :
    ¬ Always (fun pre o s => ∀ info, o = .updated info → PvpnConnection.UpToDate scripted pre s)
      (log plainConfig tunFailure 3) := by
  intro h
  have hlast : (lastOf Obs.delivered ((log plainConfig tunFailure 3).take 9)).map
      VpnState.interfaceState = some (.up none) := by decide +kernel
  obtain ⟨last, hl, hif⟩ := Option.map_eq_some_iff.mp hlast
  have hnow : ((log plainConfig tunFailure 3)[9]?).map (·.2.conn.currentTunError) =
      some (some (.ioError "device gone")) := by decide +kernel
  obtain ⟨⟨o, s⟩, hk, herr⟩ := Option.map_eq_some_iff.mp hnow
  have hobs : ∃ info, o = .updated info := by
    have hread : ((log plainConfig tunFailure 3)[9]?).map (·.1.updateRead.isSome) = some true := by
      decide +kernel
    rw [hk] at hread
    cases o <;> first | exact ⟨_, rfl⟩ | simp [Obs.updateRead] at hread
  obtain ⟨info, rfl⟩ := hobs
  have hup := (h.getElem? hk info rfl last hl).2
  rw [hif] at hup
  simp only [scripted, streams, InterfaceState.up.injEq] at hup
  rw [herr] at hup
  cases hup

end Script

end Protun
