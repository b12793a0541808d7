import Mathlib.Data.List.Induction
import Protun.Connection.Traffic
import Protun.Connection.Update
import Protun.Threads.Model

/-!
# What the connection is asked for

The peers and the settings of a connection come from its configuration and from the update messages
it reads. `Asked` says what they should be, without the comparison with the present ones that
`update_peers` and `update_local_agent_settings` make and without the table of the client.

* `Asked.name`: an update replaces what it names. Settings are for a connection that was made in
  local-agent mode; `update_local_agent_settings` ignores them in the other.
* `InitialConfig.asked`: the configuration followed by messages.
* **`always_instructed`**: in every run, whenever the client is not just being told, it has the
  peers and the settings of the messages read so far.
-/

namespace Protun

open Trace

/-- What a connection is asked for: its peers, and in local-agent mode its settings. -/
structure Asked where
  peers : List PeerInfo
  settings : Option LocalAgentSettings

namespace Asked

/-- An update that names peers, settings or both. -/
def name (a : Asked) (peers : Option (List PeerInfo)) (settings : Option LocalAgentSettings) :
    Asked :=
  ⟨peers.getD a.peers, a.settings.map settings.getD⟩

@[simp] theorem name_none_none (a : Asked) : a.name none none = a := by
  obtain ⟨peers, settings⟩ := a
  cases settings <;> rfl

@[simp] theorem name_isSome_settings (a : Asked) (peers : Option (List PeerInfo))
    (settings : Option LocalAgentSettings) :
    (a.name peers settings).settings.isSome = a.settings.isSome :=
  Option.isSome_map

/-- Only an update asks for anything here. -/
def hear (a : Asked) : PvpnMessage → Asked
  | .update u => a.name u.peers u.settings
  | _ => a

/-- The mode of a connection never changes. -/
theorem hear_isSome_settings (a : Asked) (m : PvpnMessage) :
    (a.hear m).settings.isSome = a.settings.isSome := by
  cases m with
  | update u => exact a.name_isSome_settings u.peers u.settings
  | _ => rfl

end Asked

/-- What the configuration and the messages after it ask for. -/
def InitialConfig.asked (cfg : InitialConfig) (messages : List PvpnMessage) : Asked :=
  messages.foldl Asked.hear ⟨cfg.peers, cfg.localAgentSettings⟩

namespace PvpnConnection

open Conn

variable {E S X F : Type} {d : PvpnDependencies E S X F} {cfg : InitialConfig}

/-- What the messages read in a run ask for. -/
def askedIn (cfg : InitialConfig) (l : List (Obs × Sys E S F)) : Asked :=
  cfg.asked (l.filterMap fun x => Threads.messageOf x.1)

/-- The client knows what is asked for. -/
structure Instructed (a : Asked) (l : List (Obs × Sys E S F)) : Prop where
  table : clientTable l =
    Table.ofList PeerInfo.addr PeerInfo.asPeer (SanitizedPeers.fromPeers a.peers).list
  settings : lastOf Obs.given l = a.settings.map fun s => pvpnSettings s.toSession

/-! ## Reading messages -/

theorem messageOf_of_received_none {o : Obs} (h : o.received = none) :
    Threads.messageOf o = none := by
  cases o <;> first | rfl | cases h

theorem askedIn_append {seg : List (Obs × Sys E S F)} (hseg : ∀ x ∈ seg, x.1.received = none)
    (l : List (Obs × Sys E S F)) : askedIn cfg (l ++ seg) = askedIn cfg l := by
  have hnone : seg.filterMap (fun x => Threads.messageOf x.1) = [] :=
    List.filterMap_eq_nil_iff.mpr fun x hx => messageOf_of_received_none (hseg x hx)
  unfold askedIn
  rw [List.filterMap_append, hnone, List.append_nil]

theorem askedIn_recv (l : List (Obs × Sys E S F)) (m : PvpnMessage) (s : Sys E S F) :
    askedIn cfg (l ++ [(.recv (some m), s)]) = (askedIn cfg l).hear m := by
  unfold askedIn InitialConfig.asked
  rw [List.filterMap_append, List.foldl_append]
  rfl

theorem hear_peers (a : Asked) (m : PvpnMessage) :
    (a.hear m).peers = (Obs.recv (some m)).listed.getD a.peers := by
  cases m <;> rfl

/-- The peers that are asked for are the last list received. -/
theorem askedIn_peers (l : List (Obs × Sys E S F)) : (askedIn cfg l).peers = lastList cfg l := by
  induction l using List.reverseRecOn with
  | nil => rfl
  | append_singleton l x ih =>
    obtain ⟨o, s⟩ := x
    unfold lastList at ih ⊢
    cases ho : Threads.messageOf o with
    | none =>
      have hlisted : o.listed = none := by
        cases o <;> first | rfl | skip
        next m => cases m <;> first | rfl | cases ho
      rw [lastOf_snoc_none hlisted, ← ih]
      unfold askedIn
      rw [List.filterMap_append]
      simp [ho]
    | some m =>
      obtain rfl : o = .recv (some m) := by
        cases o <;> cases ho
        rfl
      rw [askedIn_recv, hear_peers, ih, lastOf_snoc]
      cases (Obs.recv (some m)).listed <;> rfl

/-! ## The settings of the connection -/

/-- A call by which the client is told of peers or settings. -/
def isTelling (o : Obs) : Bool := o.touched.isSome || o.given.isSome

theorem received_of_isTelling {o : Obs} (h : isTelling o = true) : o.received = none := by
  cases o <;> first | rfl | cases h

/-- The connection has the settings asked for, and had them at every observation other than the
calls by which the client is told. -/
structure Heeds (cfg : InitialConfig) (h : Hist (Sys E S F) Obs) : Prop where
  settings : h.now.conn.localAgentSettings = (askedIn cfg h.past).settings
  always : Always (fun pre o s => isTelling o = false →
    s.conn.localAgentSettings = (askedIn cfg pre).settings) h.past

/-- The settings are left alone. -/
def SameSettings (c c' : PvpnConnection S F) : Prop :=
  c'.localAgentSettings = c.localAgentSettings

instance isPreorder_sameSettings : IsPreorder (PvpnConnection S F) SameSettings where
  refl _ := rfl
  trans _ _ _ h₁ h₂ := Eq.trans h₂ h₁

/-- Work that reads no message and leaves the settings alone. -/
abbrev Deaf (h h' : Hist (Sys E S F) Obs) : Prop :=
  Step SameSettings (fun o => o.received.isNone) h h'

theorem Step.deaf {h h' : Hist (Sys E S F) Obs} (hs : Steady h h') : Deaf h h' :=
  hs.mono (fun _ _ hc => hc.localAgentSettings) fun o ho => by simp [(isSteady_spec ho).2.1]

theorem Heeds.deaf {h h' : Hist (Sys E S F) Obs} (hs : Deaf h h') (hh : Heeds cfg h) :
    Heeds cfg h' where
  settings := by
    obtain ⟨seg, hseg, hq⟩ := hs.trace
    have hnone : ∀ x ∈ seg, x.1.received = none :=
      fun x hx => Option.isNone_iff_eq_none.mp (hq x hx).1
    rw [hseg, askedIn_append hnone]
    exact Eq.trans hs.core hh.settings
  always := by
    refine hs.trace.always (fun seg o s hq ho _ => ?_) hh.always
    have hnone : ∀ x ∈ seg, x.1.received = none :=
      fun x hx => Option.isNone_iff_eq_none.mp (hq x hx).1
    rw [askedIn_append hnone]
    exact Eq.trans ho.2 hh.settings

theorem Heeds.steady {h h' : Hist (Sys E S F) Obs} (hs : Steady h h') (hh : Heeds cfg h) :
    Heeds cfg h' :=
  hh.deaf (Step.deaf hs)

/-- While the client is told nothing is required. -/
theorem Heeds.telling {h h' : Hist (Sys E S F) Obs}
    (halways : Always (fun pre o s => isTelling o = false →
      s.conn.localAgentSettings = (askedIn cfg pre).settings) h.past)
    (hs : Step Anyhow isTelling h h')
    (hsettings : h'.now.conn.localAgentSettings = (askedIn cfg h.past).settings) :
    Heeds cfg h' where
  settings := by
    obtain ⟨seg, hseg, hq⟩ := hs.trace
    rw [hseg, askedIn_append fun x hx => received_of_isTelling (hq x hx).1]
    exact hsettings
  always := by
    refine hs.trace.always (fun seg o s _ ho hnot => ?_) halways
    rw [ho.1] at hnot
    cases hnot

/-- Reading a message. -/
theorem Heeds.always_recv {h : Hist (Sys E S F) Obs} (hh : Heeds cfg h) (m : Option PvpnMessage)
    (e : E) : Always (fun pre o s => isTelling o = false →
      s.conn.localAgentSettings = (askedIn cfg pre).settings) (afterRecv m e h).past :=
  always_snoc.mpr ⟨hh.always, fun _ => hh.settings⟩

/-- A message that asks for nothing. -/
theorem Heeds.recv {h : Hist (Sys E S F) Obs} (hh : Heeds cfg h) {m : Option PvpnMessage} (e : E)
    (hm : ∀ m', m = some m' → ∀ a : Asked, a.hear m' = a) : Heeds cfg (afterRecv m e h) where
  settings := by
    have hasked : askedIn cfg (afterRecv m e h).past = askedIn cfg h.past := by
      cases m with
      | none =>
        unfold askedIn afterRecv
        simp [Threads.messageOf]
      | some m' => exact (askedIn_recv _ _ _).trans (hm m' rfl _)
    rw [hasked]
    exact hh.settings
  always := hh.always_recv m e

theorem telling_updatePeersAndSettings (u : ConfigUpdate) :
    Prog.Rel (Step Anyhow isTelling) (updatePeersAndSettings d u) := by
  refine Prog.rel_bind (step_ifSome fun peers => ?_) fun _ => step_ifSome fun settings => ?_
  · exact step_updatePeers d (fun _ _ => trivial) (fun _ => rfl) (fun _ => rfl) _
  · exact step_updateLocalAgentSettings d (fun _ _ => trivial) (fun _ => rfl) settings

/-- An update, once it has been read. -/
theorem Heeds.handleUpdate {h : Hist (Sys E S F) Obs} (hh : Heeds cfg h) (u : ConfigUpdate)
    (e : E) : Heeds cfg (handleUpdate d u (afterRecv (some (.update u)) e h)).2 := by
  obtain ⟨h₁, hfirst, hconn⟩ :=
    updatePeersAndSettings_spec d u (afterRecv (some (.update u)) e h)
  have htelling := telling_updatePeersAndSettings (d := d) u (afterRecv (some (.update u)) e h)
  rw [hfirst] at htelling
  have hasked : askedIn cfg (afterRecv (some (.update u)) e h).past =
      (askedIn cfg h.past).name u.peers u.settings := askedIn_recv _ _ _
  have hh₁ : Heeds cfg h₁ := by
    refine .telling (hh.always_recv _ e) htelling ?_
    rw [hconn, hasked]
    change h.now.conn.localAgentSettings.map u.settings.getD = _
    rw [hh.settings]
    rfl
  have hsplit : PvpnConnection.handleUpdate d u (afterRecv (some (.update u)) e h) =
      ifSome u.tun (updateTun d) h₁ := by
    obtain ⟨_, h₀, hpeers, hrest⟩ := Prog.bind_returned (congrArg Prod.fst hfirst)
    unfold PvpnConnection.handleUpdate
    rw [Prog.bind_of_some hpeers]
    exact Prog.bind_of_some (hrest.symm.trans hfirst)
  rw [hsplit]
  refine hh₁.steady (step_ifSome (K := SamePeers) (Q := isSteady) (fun tun => ?_) h₁)
  exact step_updateTun d (fun _ _ => ⟨rfl, rfl⟩) (fun _ _ => ⟨rfl, rfl⟩) (fun _ _ => rfl) tun

theorem Heeds.handleMessage {h : Hist (Sys E S F) Obs} (hh : Heeds cfg h) (m : PvpnMessage)
    (e : E) : Heeds cfg (handleMessage d m (afterRecv (some m) e h)).2 := by
  cases haside : m.isAside with
  | true =>
    refine Heeds.steady (steady_of_aside (aside_handleMessage d haside) _) (hh.recv e ?_)
    rintro _ ⟨⟩ a
    cases m <;> first | rfl | cases haside
  | false =>
    cases m with
    | disconnect =>
      refine Heeds.steady (step_update (fun _ => ⟨rfl, rfl⟩) _) (hh.recv e ?_)
      rintro _ ⟨⟩ a
      rfl
    | connectivityChange event =>
      refine Heeds.steady (steady_connectivityChange d event _) (hh.recv e ?_)
      rintro _ ⟨⟩ a
      rfl
    | update u => exact hh.handleUpdate u e
    | _ => cases haside

theorem inv_receive_heeds : Prog.Inv (Heeds cfg) (receiveMessage d) := by
  intro h hh
  have hask : ask .recv d.tryRecv h =
      (some (d.tryRecv h.now.env).1,
        afterRecv (d.tryRecv h.now.env).1 (d.tryRecv h.now.env).2 h) := rfl
  unfold receiveMessage
  rw [Prog.bind_of_some hask]
  cases (d.tryRecv h.now.env).1 with
  | none => exact hh.recv _ fun _ hm => by cases hm
  | some m => exact Prog.leaves_bind (hh.handleMessage m _) fun _ => Prog.inv_pure _

theorem kept_heeds : Kept d (Heeds cfg) :=
  .of_background (fun _ _ hb hh => hh.steady hb.steady) inv_receive_heeds
    ((steady_updateState d).inv fun _ _ hs hh => hh.steady hs)
    ((steady_onConnectionLoopEnd d).inv fun _ _ hs hh => hh.steady hs)

/-! ## Every run -/

theorem deaf_new (cfg : InitialConfig) : Prog.Rel Deaf (new d cfg) := by
  refine Prog.rel_bind step_conn fun c => ?_
  refine Prog.rel_bind (Prog.rel_forEach (fun p => step_inform rfl _) _) fun _ => ?_
  refine Prog.rel_bind (fun h => Step.deaf (steady_announceNetwork d h)) fun _ => ?_
  refine Prog.rel_bind (step_ifSome fun file h => ?_) fun _ => step_ifSome fun settings => ?_
  · exact Step.deaf (steady_of_aside (aside_startPacketCapture d file) h)
  · exact Prog.rel_bind (Prog.rel_forEach (fun _ => step_inform rfl _) _) fun _ =>
      step_inform rfl _

theorem heeds_exec (cfg : InitialConfig) (streams : S) (env : E) (n : Nat) :
    Heeds cfg (exec d cfg streams env n).2 := by
  have hstart : Heeds cfg (Hist.init ⟨env, initial d cfg streams⟩) := ⟨rfl, always_nil⟩
  exact Prog.leaves_bind (hstart.deaf (deaf_new cfg _)) fun _ => kept_heeds.run n

theorem peerInv_exec (cfg : InitialConfig) (streams : S) (env : E) (n : Nat) :
    PeerInv cfg (exec d cfg streams env n).2 :=
  Prog.leaves_bind (peerInv_new d streams env) fun _ => (kept_peerInv d).run n

/-- **The client is told what is asked for.** In every run, from the first look for a message on and
whenever the client is not just being told: its peers and its settings are those of the
configuration and the messages read so far. -/
theorem always_instructed (d : PvpnDependencies E S X F) (cfg : InitialConfig) (streams : S)
    (env : E) (n : Nat) :
    Always (fun pre o _ => (lastOf Obs.received pre).isSome ∨ o.received.isSome →
        isTelling o = false → Instructed (askedIn cfg pre) pre)
      (exec d cfg streams env n).2.past := by
  intro pre o s post hpast hreceived ho
  have hsettings := (heeds_exec cfg streams env n).always pre o s post hpast ho
  obtain ⟨htouched, hgiven⟩ : o.touched = none ∧ o.given = none := by
    simpa [isTelling] using ho
  have hstep := ((peerInv_exec cfg streams env n).checked pre o s post hpast).inStep hreceived
    htouched hgiven
  refine ⟨?_, ?_⟩
  · rw [hstep.peersInStep.table, hstep.peersInStep.peers, askedIn_peers]
  · rw [← hsettings]
    exact hstep.settings

end PvpnConnection

end Protun
