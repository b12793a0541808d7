import Protun.Connection.State

/-!
# The client's peers and settings

The client keeps a table of peers: `peer_add` inserts or replaces the entry of an address,
`peer_remove` deletes it. `clientTable` replays the calls a run has made. `InStep` says that the
table holds exactly the connection's peers, that these are the sanitised form of the last list
received, and that the client was last given the connection's settings.

`update_peers` compares whole records but removes by address, and it removes before it adds
(`Table.sync`). While it runs the table is out of step; `Checked` says of every other moment that
it is in step, and of every call in an update that it does not concern a peer that stays.

* `inStep_updatePeers`: one update.
* `peers_in_step`: every run.
-/

namespace Protun

open Trace

/-! ## What the client has been told -/

/-- The address a call of `peer_add` or `peer_remove` concerns. -/
def Obs.touched : Obs → Option PeerAddr
  | .peerAdd peer => some peer.addr
  | .peerRemove addr => some addr
  | _ => none

/-- The answer of `try_recv`. -/
def Obs.received : Obs → Option (Option PvpnMessage)
  | .recv message => some message
  | _ => none

/-- The peer list of an update message. -/
def Obs.listed : Obs → Option (List PeerInfo)
  | .recv (some (.update u)) => u.peers
  | _ => none

/-- The argument of `set_settings`. -/
def Obs.given : Obs → Option Settings
  | .setSettings settings => some settings
  | _ => none

/-- The effect of a call on the client's table. -/
def Obs.onTable (t : Table PeerAddr Peer) : Obs → Table PeerAddr Peer
  | .peerAdd peer => t.put peer.addr peer
  | .peerRemove addr => t.del addr
  | _ => t

theorem Obs.onTable_of_touched_none {o : Obs} (h : o.touched = none) (t : Table PeerAddr Peer) :
    o.onTable t = t := by
  cases o <;> first | rfl | cases h

/-- The client's table after a sequence of calls. -/
def replay (t : Table PeerAddr Peer) (obs : List Obs) : Table PeerAddr Peer :=
  obs.foldl Obs.onTable t

theorem replay_append (t : Table PeerAddr Peer) (l l' : List Obs) :
    replay t (l ++ l') = replay (replay t l) l' :=
  List.foldl_append

theorem replay_of_untouched {l : List Obs} (h : ∀ o ∈ l, o.touched = none)
    (t : Table PeerAddr Peer) : replay t l = t := by
  induction l with
  | nil => rfl
  | cons o l ih =>
    have ho : o.onTable t = t := Obs.onTable_of_touched_none (h o List.mem_cons_self) t
    have hl := ih fun o' ho' => h o' (List.mem_cons_of_mem _ ho')
    unfold replay at hl ⊢
    rw [List.foldl_cons, ho, hl]

theorem replay_removes (xs : List PeerInfo) (t : Table PeerAddr Peer) :
    replay t (xs.map fun p => .peerRemove p.addr) = Table.delAll PeerInfo.addr t xs := by
  unfold replay Table.delAll
  rw [List.foldl_map]
  rfl

theorem replay_adds (xs : List PeerInfo) (t : Table PeerAddr Peer) :
    replay t (xs.map fun p => .peerAdd p.asPeer) =
      Table.putAll PeerInfo.addr PeerInfo.asPeer t xs := by
  unfold replay Table.putAll
  rw [List.foldl_map]
  rfl

namespace PvpnConnection

open Conn

variable {E S X F : Type}

/-- The client's table after a run's observations. -/
def clientTable (l : List (Obs × Sys E S F)) : Table PeerAddr Peer :=
  replay (fun _ => none) (l.map Prod.fst)

theorem clientTable_append (l seg : List (Obs × Sys E S F)) :
    clientTable (l ++ seg) = replay (clientTable l) (seg.map Prod.fst) := by
  unfold clientTable
  rw [List.map_append, replay_append]

/-- The last peer list received. -/
def lastList (cfg : InitialConfig) (l : List (Obs × Sys E S F)) : List PeerInfo :=
  (lastOf Obs.listed l).getD cfg.peers

/-- The client's table is `{ addr(p) ↦ as_peer(p) | p ∈ peers }` and the peers are the sanitised
form of the last list received. -/
structure PeersInStep (cfg : InitialConfig) (l : List (Obs × Sys E S F))
    (c : PvpnConnection S F) : Prop where
  peers : c.peers = SanitizedPeers.fromPeers (lastList cfg l)
  table : clientTable l = Table.ofList PeerInfo.addr PeerInfo.asPeer c.peers.list

/-- The client was last given the connection's settings. -/
def SettingsInStep (l : List (Obs × Sys E S F)) (c : PvpnConnection S F) : Prop :=
  lastOf Obs.given l = c.localAgentSettings.map fun s => pvpnSettings s.toSession

/-- The client knows the connection's peers and settings. -/
structure InStep (cfg : InitialConfig) (l : List (Obs × Sys E S F)) (c : PvpnConnection S F) :
    Prop where
  peersInStep : PeersInStep cfg l c
  settings : SettingsInStep l c

/-- What holds when something is observed. Once the constructor is done the client is in step,
except while it is being told (`peer_add`, `peer_remove`, `set_settings`). A peer is added or
removed then only for an update that carries a peer list, and the address is none of a peer that is
in the old and the new list alike. -/
structure Checked (cfg : InitialConfig) (pre : List (Obs × Sys E S F)) (o : Obs) (s : Sys E S F) :
    Prop where
  inStep : (lastOf Obs.received pre).isSome ∨ o.received.isSome → o.touched = none →
    o.given = none → InStep cfg pre s.conn
  kept : ∀ addr, o.touched = some addr → (lastOf Obs.received pre).isSome →
    ∃ u peers, lastOf Obs.received pre = some (some (.update u)) ∧ u.peers = some peers ∧
      ∀ p ∈ s.conn.peers.list, p ∈ (SanitizedPeers.fromPeers peers).list → p.addr ≠ addr

/-- What every step of the connection keeps. -/
structure PeerInv (cfg : InitialConfig) (h : Hist (Sys E S F) Obs) : Prop where
  inStep : InStep cfg h.past h.now.conn
  checked : Always (Checked cfg) h.past

/-! ## Work that tells the client nothing about peers and settings -/

/-- Neither a message nor a call about peers and settings. -/
def isSteady (o : Obs) : Bool :=
  o.touched.isNone && o.received.isNone && o.given.isNone

theorem isSteady_spec {o : Obs} (h : isSteady o = true) :
    o.touched = none ∧ o.received = none ∧ o.given = none := by
  simpa [isSteady, and_assoc] using h

theorem listed_of_received_none {o : Obs} (h : o.received = none) : o.listed = none := by
  cases o <;> first | rfl | cases h

theorem isSteady_of_isBackground (o : Obs) (h : o.isBackground = true) : isSteady o = true := by
  cases o <;> first | rfl | cases h

/-- The peers and the settings are left alone. -/
structure SamePeers (c c' : PvpnConnection S F) : Prop where
  peers : c'.peers = c.peers
  localAgentSettings : c'.localAgentSettings = c.localAgentSettings

instance isPreorder_samePeers : IsPreorder (PvpnConnection S F) SamePeers where
  refl _ := ⟨rfl, rfl⟩
  trans _ _ _ h₁ h₂ :=
    ⟨h₂.peers.trans h₁.peers, h₂.localAgentSettings.trans h₁.localAgentSettings⟩

/-- Work that tells the client nothing about peers and settings. -/
abbrev Steady (h h' : Hist (Sys E S F) Obs) : Prop := Step SamePeers isSteady h h'

theorem Step.steady {h h' : Hist (Sys E S F) Obs} (hb : Background h h') : Steady h h' :=
  hb.mono (fun _ _ hc => ⟨hc.peers, hc.localAgentSettings⟩) isSteady_of_isBackground

theorem steady_of_aside {α : Type} {x : Conn E S F α} (hx : Prog.Rel Aside x) :
    Prog.Rel Steady x :=
  fun h => (hx h).mono (fun _ _ hc => ⟨hc.core.peers, hc.core.localAgentSettings⟩)
    fun o ho => by cases o <;> first | rfl | cases ho

section Segment

variable {cfg : InitialConfig} {l seg : List (Obs × Sys E S F)} {c c' : PvpnConnection S F}

theorem PeersInStep.append (hseg : ∀ x ∈ seg, isSteady x.1 = true) (hc : SamePeers c c')
    (h : PeersInStep cfg l c) : PeersInStep cfg (l ++ seg) c' where
  peers := by
    have hlast : lastOf Obs.listed (l ++ seg) = lastOf Obs.listed l :=
      lastOf_append_of_none
        (fun x hx => listed_of_received_none (isSteady_spec (hseg x hx)).2.1) l
    rw [hc.peers, h.peers]
    unfold lastList
    rw [hlast]
  table := by
    rw [clientTable_append, replay_of_untouched, h.table, hc.peers]
    simp only [List.mem_map]
    rintro o ⟨x, hx, rfl⟩
    exact (isSteady_spec (hseg x hx)).1

theorem InStep.append (hseg : ∀ x ∈ seg, isSteady x.1 = true) (hc : SamePeers c c')
    (h : InStep cfg l c) : InStep cfg (l ++ seg) c' where
  peersInStep := h.peersInStep.append hseg hc
  settings := by
    have hlast : lastOf Obs.given (l ++ seg) = lastOf Obs.given l :=
      lastOf_append_of_none (fun x hx => (isSteady_spec (hseg x hx)).2.2) l
    unfold SettingsInStep
    rw [hlast, hc.localAgentSettings]
    exact h.settings

end Segment

theorem PeerInv.steady {cfg : InitialConfig} {h h' : Hist (Sys E S F) Obs} (hs : Steady h h')
    (hI : PeerInv cfg h) : PeerInv cfg h' where
  inStep := by
    obtain ⟨seg, hseg, hq⟩ := hs.trace
    rw [hseg]
    exact hI.inStep.append (fun x hx => (hq x hx).1) hs.core
  checked := by
    refine hs.trace.always (fun seg o s hq ho => ⟨fun _ _ _ => ?_, fun addr ha => ?_⟩) hI.checked
    · exact hI.inStep.append (fun x hx => (hq x hx).1) ho.2
    · rw [(isSteady_spec ho.1).1] at ha
      cases ha

variable (d : PvpnDependencies E S X F) {cfg : InitialConfig}

theorem steady_setState (state : ConnectionState) : Prog.Rel Steady (setState d state) :=
  step_setState d (fun _ _ => ⟨rfl, rfl⟩) (fun _ => rfl) state

theorem steady_updateState : Prog.Rel Steady (updateState d) :=
  step_updateState d (fun _ _ _ => ⟨rfl, rfl⟩) (fun _ _ => ⟨rfl, rfl⟩) (fun _ _ _ => ⟨rfl, rfl⟩)
    (fun _ => rfl) (fun _ => rfl) fun _ => rfl

theorem steady_onConnectionLoopEnd : Prog.Rel Steady (onConnectionLoopEnd d) := by
  refine step_onConnectionLoopEnd d (fun _ _ => ⟨rfl, rfl⟩) (fun _ _ => ⟨rfl, rfl⟩) rfl
    (fun o ho => ?_) fun _ => rfl
  cases o <;> first | rfl | cases ho

theorem steady_connectivityChange (event : ConnectivityEvent) :
    Prog.Rel Steady (handleMessage d (.connectivityChange event)) := by
  refine Prog.rel_bind (step_ask (fun _ => rfl) _) fun info => ?_
  refine Prog.rel_bind (step_update fun _ => ⟨rfl, rfl⟩) fun _ => ?_
  refine Prog.rel_bind step_conn fun c => ?_
  split
  · exact step_inform rfl _
  · exact Prog.rel_bind (step_inform rfl _) fun _ => steady_setState d _

/-- The calls of `for a in xs { if p(a) { call } }`. -/
theorem tells_forEach_when {α : Type} (p : α → Prop) [DecidablePred p] (o : α → Obs)
    (f : α → E → E) (xs : List α) :
    Tells (Prog.forEach xs fun a => Prog.when (p a) (inform (o a) (f a)) : Conn E S F Unit)
      ((xs.filter fun a => p a).map o) := by
  have hobs : ((xs.filter fun a => p a).map o) = xs.flatMap fun a => if p a then [o a] else [] := by
    induction xs with
    | nil => rfl
    | cons a xs ih => by_cases hp : p a <;> simp [hp, ih]
  rw [hobs]
  exact tells_forEach (fun a => tells_when (p a) (tells_inform (o a) (f a))) xs

/-! ## One update of the peers -/

/-- The calls of `update_peers`. -/
def changes (old new : SanitizedPeers) : List Obs :=
  ((old.list.filter fun p => p ∉ new.list).map fun p => .peerRemove p.addr) ++
    (new.list.filter fun p => p ∉ old.list).map fun p => .peerAdd p.asPeer

theorem changes_self (peers : SanitizedPeers) : changes peers peers = [] := by
  have h : (peers.list.filter fun p => p ∉ peers.list) = [] := by
    rw [List.filter_eq_nil_iff]
    intro p hp
    simpa using hp
  unfold changes
  rw [h]
  rfl

/-- The calls take the table of the old peers to the table of the new ones. -/
theorem replay_changes (old new : SanitizedPeers) :
    replay (Table.ofList PeerInfo.addr PeerInfo.asPeer old.list) (changes old new) =
      Table.ofList PeerInfo.addr PeerInfo.asPeer new.list := by
  unfold changes
  rw [replay_append, replay_removes, replay_adds]
  exact Table.sync old.addr_nodup new.addr_nodup

/-- No call concerns a peer that stays. -/
theorem mem_changes {old new : SanitizedPeers} {o : Obs} (h : o ∈ changes old new) :
    o.received = none ∧ o.given = none ∧
      ∃ addr, o.touched = some addr ∧ ∀ p ∈ old.list, p ∈ new.list → p.addr ≠ addr := by
  rcases List.mem_append.mp h with h | h
  · obtain ⟨q, hq, rfl⟩ := List.mem_map.mp h
    obtain ⟨hqo, hqn⟩ := List.mem_filter.mp hq
    refine ⟨rfl, rfl, q.addr, rfl, fun p hpo hpn heq => ?_⟩
    rw [Table.key_inj old.addr_nodup hpo hqo heq] at hpn
    exact absurd hpn (by simpa using hqn)
  · obtain ⟨q, hq, rfl⟩ := List.mem_map.mp h
    obtain ⟨hqn, hqo⟩ := List.mem_filter.mp hq
    refine ⟨rfl, rfl, q.addr, rfl, fun p hpo hpn heq => ?_⟩
    rw [Table.key_inj new.addr_nodup hpn hqn heq] at hpo
    exact absurd hpo (by simpa using hqo)

/-- `update_peers` makes the calls `changes` and then replaces the list. -/
theorem updatePeers_spec (newPeers : SanitizedPeers) (h : Hist (Sys E S F) Obs) :
    ∃ h', updatePeers d newPeers h = (some (), h') ∧
      h'.now.conn = { h.now.conn with peers := newPeers } ∧
      ∃ seg, h'.past = h.past ++ seg ∧ seg.map Prod.fst = changes h.now.conn.peers newPeers ∧
        ∀ x ∈ seg, x.2.conn = h.now.conn := by
  by_cases heq : h.now.conn.peers = newPeers
  · subst heq
    refine ⟨h, ?_, rfl, [], by simp, by rw [changes_self]; rfl, by simp⟩
    unfold updatePeers
    simp only [Prog.bind_apply, conn, Prog.when_neg (not_not_intro rfl)]
    rfl
  · have hremove := tells_forEach_when (E := E) (S := S) (F := F)
      (fun p => ¬ newPeers.contains p = true) (fun p => .peerRemove p.addr)
      (fun p => d.client.peerRemove p.addr) h.now.conn.peers.list
    have hadd := tells_forEach_when (E := E) (S := S) (F := F)
      (fun p => ¬ h.now.conn.peers.contains p = true) (fun p => .peerAdd p.asPeer)
      (fun p => d.client.peerAdd p.asPeer) newPeers.list
    obtain ⟨h', hrun, hconn, seg, hpast, hobs, hsnap⟩ :=
      tells_bind (f := fun _ => Prog.forEach newPeers.list _) hremove hadd h
    refine ⟨h'.set { h'.now with conn := { h'.now.conn with peers := newPeers } }, ?_, ?_, seg,
      hpast, ?_, hsnap⟩
    · obtain ⟨u, h₁, hr, ha⟩ := Prog.bind_returned (congrArg Prod.fst hrun)
      rw [ha] at hrun
      unfold updatePeers
      simp only [Prog.bind_apply, conn, Prog.when_pos heq]
      unfold removeUnless addPeer
      simp only [hr, hrun]
      rfl
    · simp only [Hist.set_now, hconn]
    · rw [hobs]
      simp [changes, SanitizedPeers.contains]

/-! ## Messages -/

/-- The history after `try_recv` has answered `m`. -/
def afterRecv (m : Option PvpnMessage) (e : E) (h : Hist (Sys E S F) Obs) : Hist (Sys E S F) Obs :=
  (h.set { h.now with env := e }).emit (.recv m)

/-- Reading a message: the client is in step with the list received before it. -/
theorem checked_recv {h : Hist (Sys E S F) Obs} (hI : PeerInv cfg h) (m : Option PvpnMessage)
    (e : E) : Always (Checked cfg) (afterRecv m e h).past :=
  always_snoc.mpr ⟨hI.checked, fun _ _ _ => hI.inStep, fun addr ha => by cases ha⟩

/-- A message that carries no peer list. -/
theorem PeerInv.recv {h : Hist (Sys E S F) Obs} (hI : PeerInv cfg h) {m : Option PvpnMessage}
    (hm : (Obs.recv m).listed = none) (e : E) : PeerInv cfg (afterRecv m e h) where
  inStep := {
    peersInStep := {
      peers := by
        have hlast : lastOf Obs.listed (afterRecv m e h).past = lastOf Obs.listed h.past :=
          lastOf_snoc_none hm _ _
        unfold lastList
        rw [hlast]
        exact hI.inStep.peersInStep.peers
      table := (clientTable_append _ _).trans hI.inStep.peersInStep.table }
    settings := (lastOf_snoc_none rfl _ _).trans hI.inStep.settings }
  checked := checked_recv hI m e

/-- What was observed while `update_peers` told the client about the changes: the peers that stay
were left alone. -/
theorem checked_changes {h : Hist (Sys E S F) Obs} (hI : PeerInv cfg h) {u : ConfigUpdate}
    {peers : List PeerInfo} (hu : u.peers = some peers) (e : E) {seg : List (Obs × Sys E S F)}
    (hmem : ∀ x ∈ seg, x.1 ∈ changes h.now.conn.peers (SanitizedPeers.fromPeers peers))
    (hsnap : ∀ x ∈ seg, x.2.conn = h.now.conn) :
    Always (Checked cfg) ((afterRecv (some (.update u)) e h).past ++ seg) := by
  refine always_append (checked_recv hI _ e) fun pre o s post hseg => ?_
  have ho := hmem (o, s) (hseg ▸ by simp)
  have hs := hsnap (o, s) (hseg ▸ by simp)
  obtain ⟨-, -, addr, htouch, hstay⟩ := mem_changes ho
  refine ⟨fun _ hnone => ?_, fun addr' ha _ => ⟨u, peers, ?_, hu, ?_⟩⟩
  · rw [htouch] at hnone
    cases hnone
  · rw [lastOf_append_of_none]
    · exact lastOf_snoc_some (f := Obs.received) rfl _ _
    · exact fun x hx => (mem_changes (hmem x (hseg ▸ List.mem_append_left _ hx))).1
  · rw [htouch] at ha
    cases ha
    rw [show s.conn = _ from hs]
    exact hstay

/-- **An update of the peers** brings the client's table from the old sanitised list to the new one
and leaves the peers that stay alone. -/
theorem inStep_updatePeers {h : Hist (Sys E S F) Obs} (hI : PeerInv cfg h) {u : ConfigUpdate}
    {peers : List PeerInfo} (hu : u.peers = some peers) (e : E) :
    PeerInv cfg (updatePeers d (SanitizedPeers.fromPeers peers)
      (afterRecv (some (.update u)) e h)).2 := by
  obtain ⟨h', hrun, hconn, seg, hpast, hobs, hsnap⟩ :=
    updatePeers_spec d (SanitizedPeers.fromPeers peers) (afterRecv (some (.update u)) e h)
  have hmem : ∀ x ∈ seg, x.1 ∈ changes h.now.conn.peers (SanitizedPeers.fromPeers peers) :=
    fun x hx => hobs ▸ List.mem_map_of_mem hx
  rw [hrun]
  refine ⟨⟨⟨?_, ?_⟩, ?_⟩, hpast ▸ checked_changes hI hu e hmem hsnap⟩
  · -- the last list received is the one of this update
    have hlast : lastOf Obs.listed h'.past = some peers := by
      rw [hpast, lastOf_append_of_none fun x hx =>
        listed_of_received_none (mem_changes (hmem x hx)).1]
      exact lastOf_snoc_some (f := Obs.listed) (o := .recv (some (.update u))) hu _ _
    rw [hconn]
    unfold lastList
    rw [hlast]
    rfl
  · rw [hpast, clientTable_append, hobs, hconn]
    have htable : clientTable (afterRecv (some (.update u)) e h).past =
        Table.ofList PeerInfo.addr PeerInfo.asPeer h.now.conn.peers.list :=
      (clientTable_append _ _).trans hI.inStep.peersInStep.table
    rw [htable]
    exact replay_changes _ _
  · have hlast : lastOf Obs.given h'.past = lastOf Obs.given h.past := by
      rw [hpast, lastOf_append_of_none fun x hx => (mem_changes (hmem x hx)).2.1]
      exact lastOf_snoc_none rfl _ _
    unfold SettingsInStep
    rw [hlast, hconn]
    exact hI.inStep.settings

/-- An update of the settings. -/
theorem inv_updateLocalAgentSettings (settings : LocalAgentSettings) :
    Prog.Inv (PeerInv cfg) (updateLocalAgentSettings d settings) := by
  intro h hI
  unfold updateLocalAgentSettings
  simp only [Prog.bind_apply, conn]
  cases hc : h.now.conn.localAgentSettings with
  | none => exact hI
  | some current =>
    dsimp only
    by_cases heq : current = settings
    · rw [Prog.when_neg (not_not_intro heq)]
      exact hI
    · rw [Prog.when_pos heq]
      simp only [Prog.bind_apply, update, giveSettings, inform, Prog.modify_apply, Prog.emit_apply]
      refine ⟨⟨⟨?_, ?_⟩, ?_⟩, ?_⟩
      · have hlast : ∀ s, lastOf Obs.listed (h.past ++
            [(.setSettings (pvpnSettings settings.toSession), s)]) = lastOf Obs.listed h.past :=
          fun s => lastOf_snoc_none rfl _ _
        unfold lastList
        simp only [Hist.set_past, Hist.emit_past, hlast]
        exact hI.inStep.peersInStep.peers
      · exact (clientTable_append _ _).trans hI.inStep.peersInStep.table
      · exact lastOf_snoc_some (f := Obs.given) rfl _ _
      · refine always_snoc.mpr ⟨hI.checked, fun _ _ hg => ?_, fun addr ha => ?_⟩
        · cases hg
        · cases ha

theorem inv_updateRest (u : ConfigUpdate) :
    Prog.Inv (PeerInv cfg) (do
      ifSome u.settings (updateLocalAgentSettings d)
      ifSome u.tun (updateTun d) : Conn E S F Unit) := by
  refine Prog.inv_bind ?_ fun _ => ?_
  · cases u.settings with
    | none => exact Prog.inv_pure ()
    | some settings => exact inv_updateLocalAgentSettings d settings
  · refine (step_ifSome (K := SamePeers) (Q := isSteady) fun tun => ?_).inv
      fun _ _ => PeerInv.steady
    exact step_updateTun d (fun _ _ => ⟨rfl, rfl⟩) (fun _ _ => ⟨rfl, rfl⟩) (fun _ _ => rfl) tun

/-- Handling the message that has just been read. -/
theorem PeerInv.handleMessage {h : Hist (Sys E S F) Obs} (hI : PeerInv cfg h) (m : PvpnMessage)
    (env : E) : PeerInv cfg (handleMessage d m (afterRecv (some m) env h)).2 := by
  cases haside : m.isAside with
  | true =>
    refine PeerInv.steady (steady_of_aside (aside_handleMessage d haside) _) (hI.recv ?_ _)
    cases m <;> first | rfl | cases haside
  | false =>
    cases m with
    | disconnect => exact PeerInv.steady (step_update (fun _ => ⟨rfl, rfl⟩) _) (hI.recv rfl _)
    | connectivityChange event =>
      exact PeerInv.steady (steady_connectivityChange d event _) (hI.recv rfl _)
    | update u =>
      cases hu : u.peers with
      | none =>
        have hrest := inv_updateRest d u _ (hI.recv (m := some (.update u)) hu env)
        simpa [PvpnConnection.handleMessage, handleUpdate, hu, ifSome, Prog.bind_apply] using hrest
      | some peers =>
        have hrest := inv_updateRest d u _ (inStep_updatePeers d hI hu env)
        obtain ⟨h', hrun, -⟩ := updatePeers_spec d (SanitizedPeers.fromPeers peers)
          (afterRecv (some (.update u)) env h)
        rw [hrun] at hrest
        simp only [PvpnConnection.handleMessage, handleUpdate, hu, ifSome]
        rw [Prog.bind_of_some hrun]
        exact hrest
    | _ => cases haside

theorem inv_receive_peers : Prog.Inv (PeerInv cfg) (receiveMessage d) := by
  intro h hI
  have hask : ask .recv d.tryRecv h =
      (some (d.tryRecv h.now.env).1,
        afterRecv (d.tryRecv h.now.env).1 (d.tryRecv h.now.env).2 h) := rfl
  unfold receiveMessage
  rw [Prog.bind_of_some hask]
  cases (d.tryRecv h.now.env).1 with
  | none => exact hI.recv rfl _
  | some m => exact Prog.leaves_bind (hI.handleMessage d m _) fun _ => Prog.inv_pure _

theorem kept_peerInv : Kept d (PeerInv cfg) :=
  .of_background (fun _ _ hb => PeerInv.steady hb.steady) (inv_receive_peers d)
    ((steady_updateState d).inv fun _ _ => PeerInv.steady)
    ((steady_onConnectionLoopEnd d).inv fun _ _ => PeerInv.steady)

/-! ## The constructor -/

/-- What holds in the constructor once the peers are added and before the settings are given. -/
structure Constructing (cfg : InitialConfig) (h : Hist (Sys E S F) Obs) : Prop where
  peersInStep : PeersInStep cfg h.past h.now.conn
  settings : h.now.conn.localAgentSettings = cfg.localAgentSettings
  nothingReceived : lastOf Obs.received h.past = none
  nothingGiven : lastOf Obs.given h.past = none
  checked : Always (Checked cfg) h.past

/-- Before the first message nothing is required. -/
theorem checked_of_nothingReceived {l : List (Obs × Sys E S F)} {o : Obs} {s : Sys E S F}
    (hl : lastOf Obs.received l = none) (ho : o.received = none) : Checked cfg l o s where
  inStep h := by simp [hl, ho] at h
  kept addr _ h := by simp [hl] at h

theorem Constructing.steady {h h' : Hist (Sys E S F) Obs} (hs : Steady h h')
    (hI : Constructing cfg h) : Constructing cfg h' where
  peersInStep := by
    obtain ⟨seg, hseg, hq⟩ := hs.trace
    rw [hseg]
    exact hI.peersInStep.append (fun x hx => (hq x hx).1) hs.core
  settings := hs.core.localAgentSettings.trans hI.settings
  nothingReceived :=
    (hs.observed.lastOf fun o _ ho => (isSteady_spec ho).2.1).trans hI.nothingReceived
  nothingGiven := (hs.observed.lastOf fun o _ ho => (isSteady_spec ho).2.2).trans hI.nothingGiven
  checked := by
    refine hs.trace.always (fun seg o s hq ho => ?_) hI.checked
    refine checked_of_nothingReceived ?_ (isSteady_spec ho.1).2.1
    rw [lastOf_append_of_none fun x hx => (isSteady_spec (hq x hx).1).2.1]
    exact hI.nothingReceived

theorem tells_addPeer (p : PeerInfo) :
    Tells (addPeer d p : Conn E S F Unit) [.peerAdd p.asPeer] :=
  tells_inform _ _

/-- Additions of peers are no occasion for any other reading of the trace. -/
theorem lastOf_adds {β : Type} {f : Obs → Option β} {seg : List (Obs × Sys E S F)}
    (hadds : ∀ x ∈ seg, ∃ peer, x.1 = .peerAdd peer) (hf : ∀ peer, f (.peerAdd peer) = none) :
    lastOf f seg = none := by
  refine lastOf_of_none fun x hx => ?_
  obtain ⟨peer, hp⟩ := hadds x hx
  rw [hp, hf]

theorem checked_adds {seg : List (Obs × Sys E S F)}
    (hadds : ∀ x ∈ seg, ∃ peer, x.1 = .peerAdd peer) : Always (Checked cfg) seg := by
  intro pre o s post heq
  obtain ⟨peer, hp⟩ := hadds (o, s) (heq ▸ by simp)
  have hpre : ∀ x ∈ pre, ∃ peer, x.1 = .peerAdd peer :=
    fun x hx => hadds x (heq ▸ List.mem_append_left _ hx)
  refine checked_of_nothingReceived (lastOf_adds hpre fun _ => rfl) ?_
  rw [show o = .peerAdd peer from hp]
  rfl

/-- Adding the initial peers fills the empty table. -/
theorem constructing_addPeers (streams : S) (env : E) :
    Constructing cfg (Prog.forEach (SanitizedPeers.fromPeers cfg.peers).list (addPeer d)
      (Hist.init ⟨env, initial d cfg streams⟩)).2 := by
  obtain ⟨h', hrun, hconn, seg, hpast, hobs, -⟩ := tells_forEach (tells_addPeer d)
    (SanitizedPeers.fromPeers cfg.peers).list (Hist.init ⟨env, initial d cfg streams⟩)
  have hobs' : seg.map Prod.fst =
      (SanitizedPeers.fromPeers cfg.peers).list.map fun p => .peerAdd p.asPeer := by
    rw [hobs, List.map_eq_flatMap]
  have hadds : ∀ x ∈ seg, ∃ peer, x.1 = .peerAdd peer := by
    intro x hx
    have hx' : x.1 ∈ seg.map Prod.fst := List.mem_map_of_mem hx
    rw [hobs'] at hx'
    obtain ⟨p, -, hp⟩ := List.mem_map.mp hx'
    exact ⟨_, hp.symm⟩
  rw [hrun]
  have hseg : h'.past = seg := hpast
  refine ⟨⟨?_, ?_⟩, ?_, ?_, ?_, ?_⟩
  · rw [hconn]
    unfold lastList
    rw [hseg, lastOf_adds hadds fun _ => rfl]
    rfl
  · rw [hseg, hconn]
    unfold clientTable
    rw [hobs', replay_adds]
    funext k
    rw [Table.putAll_apply (SanitizedPeers.addr_nodup _), Option.or_none]
    rfl
  · rw [hconn]
    rfl
  · rw [hseg, lastOf_adds hadds fun _ => rfl]
  · rw [hseg, lastOf_adds hadds fun _ => rfl]
  · rw [hseg]
    exact checked_adds hadds

/-- Once the settings are given the constructor is done. -/
theorem Constructing.done {h : Hist (Sys E S F) Obs} (hI : Constructing cfg h) :
    PeerInv cfg (ifSome cfg.localAgentSettings (watchLocalAgent d) h).2 := by
  cases hc : cfg.localAgentSettings with
  | none =>
    have hs : SettingsInStep h.past h.now.conn := by
      unfold SettingsInStep
      rw [hI.nothingGiven, hI.settings, hc]
      rfl
    exact ⟨⟨hI.peersInStep, hs⟩, hI.checked⟩
  | some settings =>
    have hwatch : Prog.Rel Steady (Prog.forEach LocalAgentHandler.localAgentSelectorsToWatch
        fun selector => pushLocalAgent d (.watch selector)) :=
      Prog.rel_forEach (fun _ => step_inform rfl _) _
    have hI' := hI.steady (hwatch h)
    obtain ⟨h', hrun, -⟩ := tells_forEach
      (fun selector => tells_inform (E := E) (S := S) (F := F) (.pushLocalAgent (.watch selector))
        (d.client.pushLocalAgent (.watch selector))) LocalAgentHandler.localAgentSelectorsToWatch h
    unfold pushLocalAgent at hI'
    rw [hrun] at hI'
    simp only [ifSome, watchLocalAgent]
    unfold pushLocalAgent
    rw [Prog.bind_of_some hrun]
    refine ⟨⟨⟨?_, ?_⟩, ?_⟩, ?_⟩
    · have hlast : lastOf Obs.listed (giveSettings d settings h').2.past =
          lastOf Obs.listed h'.past := lastOf_snoc_none rfl _ _
      unfold lastList
      rw [hlast]
      exact hI'.peersInStep.peers
    · exact (clientTable_append _ _).trans hI'.peersInStep.table
    · have hgiven : lastOf Obs.given (giveSettings d settings h').2.past =
          some (pvpnSettings settings.toSession) := lastOf_snoc_some (f := Obs.given) rfl _ _
      have hset : (giveSettings d settings h').2.now.conn.localAgentSettings = some settings :=
        hI'.settings.trans hc
      unfold SettingsInStep
      rw [hgiven, hset]
      rfl
    · exact always_snoc.mpr ⟨hI'.checked, checked_of_nothingReceived hI'.nothingReceived rfl⟩

theorem steady_announceNetwork : Prog.Rel Steady (announceNetwork d) :=
  step_announceNetwork d (fun _ _ => ⟨rfl, rfl⟩) rfl fun _ => rfl

theorem returns_inform (o : Obs) (f : E → E) : Prog.Returns (inform o f : Conn E S F Unit) :=
  fun _ => ⟨_, _, rfl⟩

theorem returns_announceNetwork : Prog.Returns (announceNetwork d) := by
  refine Prog.returns_bind (fun h => ⟨_, h, rfl⟩) fun c => Prog.returns_when ?_
  exact Prog.returns_bind (returns_inform _ _) fun _ h => ⟨_, _, setState_eq d _ h⟩

theorem returns_startPacketCapture (fileInfo : PcapFileInfo) :
    Prog.Returns (startPacketCapture d fileInfo) := by
  refine Prog.returns_bind (fun _ => ⟨_, _, rfl⟩) fun r => ?_
  cases r with
  | error e => exact Prog.returns_pure ()
  | ok stream =>
    refine Prog.returns_bind (fun h => ⟨_, h, rfl⟩) fun c => ?_
    refine Prog.returns_bind (fun _ => ⟨_, _, rfl⟩) fun _ => ?_
    refine Prog.returns_bind (fun _ => ⟨_, _, rfl⟩) fun _ => ?_
    exact Prog.returns_bind (returns_inform _ _) fun _ => returns_inform _ _

theorem peerInv_new (streams : S) (env : E) :
    PeerInv cfg (new d cfg (Hist.init ⟨env, initial d cfg streams⟩)).2 := by
  have hadd : Constructing cfg _ := constructing_addPeers d streams env
  obtain ⟨h₁, hrun₁, -⟩ := tells_forEach (tells_addPeer d)
    (SanitizedPeers.fromPeers cfg.peers).list (Hist.init ⟨env, initial d cfg streams⟩)
  obtain ⟨u₂, h₂, hrun₂⟩ := returns_announceNetwork d h₁
  have hcap : Prog.Returns (ifSome cfg.pcapFile (startPacketCapture d)) := by
    cases cfg.pcapFile with
    | none => exact Prog.returns_pure ()
    | some file => exact returns_startPacketCapture d file
  obtain ⟨u₃, h₃, hrun₃⟩ := hcap h₂
  have hcapS : Prog.Rel Steady (ifSome cfg.pcapFile (startPacketCapture d)) :=
    step_ifSome fun file => steady_of_aside (aside_startPacketCapture d file)
  have hnew : new d cfg (Hist.init ⟨env, initial d cfg streams⟩) =
      ifSome cfg.localAgentSettings (watchLocalAgent d) h₃ := by
    unfold new
    rw [conn_bind]
    exact (Prog.bind_of_some hrun₁).trans <| (Prog.bind_of_some hrun₂).trans <|
      Prog.bind_of_some hrun₃
  rw [hnew]
  rw [hrun₁] at hadd
  have hann := hadd.steady (steady_announceNetwork d h₁)
  rw [hrun₂] at hann
  have hcapI := hann.steady (hcapS h₂)
  rw [hrun₃] at hcapI
  exact hcapI.done d

/-- **The client's peers and settings.** In every run the client's table is exactly
`{ addr(p) ↦ as_peer(p) | p ∈ peers }` for the sanitised form of the last list received, and it was
last given the connection's settings: after the constructor, whenever a message is read, and at
every other moment at which it is not just being told. No update removes or adds the address of a
peer that is in both lists. -/
theorem peers_in_step (cfg : InitialConfig) (streams : S) (env : E) (n : Nat) :
    InStep cfg (new d cfg (Hist.init ⟨env, initial d cfg streams⟩)).2.past
        (new d cfg (Hist.init ⟨env, initial d cfg streams⟩)).2.now.conn ∧
      Always (Checked cfg) (exec d cfg streams env n).2.past ∧
      InStep cfg (exec d cfg streams env n).2.past (exec d cfg streams env n).2.now.conn := by
  have hnew : PeerInv cfg _ := peerInv_new d streams env
  have hexec : PeerInv cfg (exec d cfg streams env n).2 := by
    unfold exec
    rw [Prog.bind_apply]
    cases hr : new d cfg (Hist.init ⟨env, initial d cfg streams⟩) with
    | mk r h =>
      rw [hr] at hnew
      cases r with
      | none => exact hnew
      | some u => exact (kept_peerInv d).run n h hnew
  exact ⟨hnew.inStep, hexec.checked, hexec.inStep⟩

end PvpnConnection

end Protun
