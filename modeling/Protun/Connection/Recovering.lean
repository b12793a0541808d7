import Protun.Connection.Moves
import Protun.Connection.Network
import Protun.Connection.Script
import Protun.Connection.Zoom
import Protun.Recovery.Runs

/-!
# What the client is told about the network

The client hears of the network in two ways, `notify_network_change` and `notify_network_down`, and
nothing else tells it whether there is one.

* `Caused`: there was a network error of a socket, and nothing has ended the wait since.
* **`notification_caused`**: a network change is notified only in answer to a connectivity message,
  or to a network error of its own whose backoff has passed.
* `told`, `heard`: what the client was told last, and what the loop heard last.
* **`client_knows_network`**: the two are the same, whenever the loop does anything but add a peer,
  ask for the tunnel or pass it on.
-/

namespace Protun

open Trace

namespace PvpnConnection

open Conn

variable {E S X F α : Type} {d : PvpnDependencies E S X F}

/-! ## Why the client is told of a change -/

section Causes

variable (d) (time : E → Duration)

/-- `time` is the instant at which the client's clock was read last. -/
structure Reads : Prop where
  monotonicNow : ∀ e, time (d.client.monotonicNow e).2 = (d.client.monotonicNow e).1
  setCurrentTime : ∀ e, time (d.client.setCurrentTime e).2 = (d.client.setCurrentTime e).1

/-- What ends the wait for a recovery: a socket could be opened, the connectivity changes, a change
is notified, or the user is shown `Connected`. -/
def endsWait (o : Obs) (s : Sys E S F) : Bool :=
  match o with
  | .opened _ _ (.ok ()) | .recv (some (.connectivityChange _)) | .notifyNetworkChange => true
  | .updated _ =>
    match s.conn.connectionState with
    | .connected .. => true
    | _ => false
  | _ => false

/-- A network error of a socket, with the network available, after which the client is to be told of
a change at `deadline`: when the backoff in force has passed. -/
structure Schedules (deadline : Duration) (x : Obs × Sys E S F) : Prop where
  error : ∃ streamId kind, x.1 = .pushError streamId kind ∧ kind.isNetworkError = true
  available : x.2.conn.networkRecoveryHandler.networkAvailable = true
  due : deadline = time x.2.env + x.2.conn.networkRecoveryHandler.delayedNetworkChangeDuration

/-- There was such an error, and nothing has ended the wait since. -/
def Caused (deadline : Duration) (l : List (Obs × Sys E S F)) : Prop :=
  ∃ pre x post, l = pre ++ x :: post ∧ Schedules time deadline x ∧
    ∀ y ∈ post, endsWait y.1 y.2 = false

/-- A connectivity message with a network is being handled. -/
def InAnswer (l : List (Obs × Sys E S F)) : Prop :=
  ∃ pre event s info s', l = pre ++ [(.recv (some (.connectivityChange event)), s),
    (.tunnelInfo info, s')] ∧ event.available = true

/-- A change is notified with the network available, in answer to a message or to an error. -/
def Justified (pre : List (Obs × Sys E S F)) (o : Obs) (s : Sys E S F) : Prop :=
  o = .notifyNetworkChange → s.conn.networkRecoveryHandler.networkAvailable = true ∧
    (InAnswer pre ∨ ∃ deadline ≤ time s.env, Caused time deadline pre)

/-- What is pending has a cause, and so had what was notified. -/
structure Recovering (h : Hist (Sys E S F) Obs) : Prop where
  pending : ∀ deadline ∈ h.now.conn.networkRecoveryHandler.sendDelayedNetworkChangeAt,
    Caused time deadline h.past
  notified : Always (Justified time) h.past

variable {d time}

theorem Caused.append {deadline : Duration} {l seg : List (Obs × Sys E S F)}
    (hc : Caused time deadline l) (hseg : ∀ y ∈ seg, endsWait y.1 y.2 = false) :
    Caused time deadline (l ++ seg) := by
  obtain ⟨pre, x, post, rfl, hx, hpost⟩ := hc
  refine ⟨pre, x, post ++ seg, by simp, hx, fun y hy => ?_⟩
  rcases List.mem_append.mp hy with hy | hy
  · exact hpost y hy
  · exact hseg y hy

theorem endsWait_of_isPlacid {o : Obs} (ho : o.isPlacid = true) (s : Sys E S F) :
    endsWait o s = false := by
  unfold endsWait
  split
  · cases ho
  · cases ho
  · cases ho
  · cases ho
  · rfl

namespace Recovering

variable {h h' : Hist (Sys E S F) Obs}

/-- Nothing is pending any more. -/
theorem of_none (hh : Always (Justified time) h.past)
    (hnone : h.now.conn.networkRecoveryHandler.sendDelayedNetworkChangeAt = none) :
    Recovering time h :=
  ⟨fun deadline hd => absurd hd (by simp [hnone]), hh⟩

theorem snoc_notified {l : List (Obs × Sys E S F)} (hl : Always (Justified time) l) {o : Obs}
    {s : Sys E S F} (ho : o.network ≠ some true) : Always (Justified time) (l ++ [(o, s)]) :=
  always_snoc.mpr ⟨hl, fun heq => absurd (by rw [heq]; rfl) ho⟩

/-- An observation that neither ends the wait nor notifies, with the deadline as it was. -/
theorem snoc (hh : Recovering time h) {o : Obs} {s : Sys E S F}
    (hs : s.conn.networkRecoveryHandler.sendDelayedNetworkChangeAt =
      h.now.conn.networkRecoveryHandler.sendDelayedNetworkChangeAt)
    (ho : o.network ≠ some true) (hwait : endsWait o s = false) :
    Recovering time ((h.set s).emit o) where
  pending deadline hd := by
    refine (hh.pending deadline (hs ▸ hd)).append fun y hy => ?_
    rwa [List.mem_singleton.mp hy]
  notified := snoc_notified hh.notified ho

theorem placid (hh : Recovering time h) (hs : Placid h h') : Recovering time h' where
  pending deadline hd := by
    obtain ⟨seg, hpast, hseg⟩ := hs.trace
    have hcore : h'.now.conn.networkRecoveryHandler = h.now.conn.networkRecoveryHandler := hs.core
    rw [hcore] at hd
    rw [hpast]
    exact (hh.pending deadline hd).append fun y hy => endsWait_of_isPlacid (hseg y hy).1 y.2
  notified := by
    refine hs.trace.always (fun seg o s _ ho heq => ?_) hh.notified
    rw [heq] at ho
    cases ho.1

theorem error (hd : Reads d time) (hh : Recovering time h) (streamId : StreamId)
    (kind : ErrorKind) :
    Recovering time ((h.set ⟨(d.client.monotonicNow h.now.env).2,
      h.now.conn.withRecovery (h.now.conn.networkRecoveryHandler.onStreamError kind
        (d.client.monotonicNow h.now.env).1)⟩).emit (.pushError streamId kind)) := by
  generalize hr : h.now.conn.networkRecoveryHandler.onStreamError kind
    (d.client.monotonicNow h.now.env).1 = r
  by_cases hsched : h.now.conn.networkRecoveryHandler.networkAvailable = true ∧
      kind.isNetworkError = true
  · obtain ⟨havail, hkind⟩ := hsched
    have hr' : r = { h.now.conn.networkRecoveryHandler with
        sendDelayedNetworkChangeAt := some ((d.client.monotonicNow h.now.env).1 +
          h.now.conn.networkRecoveryHandler.delayedNetworkChangeDuration) } := by
      rw [← hr]
      simp only [NetworkRecoveryHandler.onStreamError, havail, if_true]
      cases kind <;> first | rfl | cases hkind
    refine ⟨fun deadline hdl => ⟨h.past, _, [], rfl, ⟨⟨streamId, kind, rfl, hkind⟩, ?_, ?_⟩, ?_⟩,
      snoc_notified hh.notified (by simp [Obs.network])⟩
    · rw [hr']
      exact havail
    · have hset : r.sendDelayedNetworkChangeAt = some deadline := hdl
      rw [hr'] at hset ⊢
      cases hset
      show _ = time (d.client.monotonicNow h.now.env).2 + _
      rw [hd.monotonicNow]
      rfl
    · exact fun y hy => absurd hy List.not_mem_nil
  · refine hh.snoc ?_ (by simp [Obs.network]) rfl
    show r.sendDelayedNetworkChangeAt = _
    rw [← hr]
    unfold NetworkRecoveryHandler.onStreamError
    split
    · cases kind <;> first | rfl | exact absurd ⟨‹_›, rfl⟩ hsched
    · rfl

theorem connected (hh : Recovering time h) (info : Option TunnelInfo) :
    Recovering time (closeUpdate info h) := by
  unfold closeUpdate
  cases hstate : h.now.conn.connectionState with
  | connected peer agentInfo =>
    refine .of_none (snoc_notified hh.notified (by simp [Obs.network])) ?_
    simp [noteConnected, hstate, NetworkRecoveryHandler.onConnected]
  | _ =>
    refine hh.snoc ?_ (by simp [Obs.network]) ?_
    · simp [noteConnected, hstate]
    · simp [endsWait, noteConnected, hstate]

theorem changed (hh : Recovering time h) (event : ConnectivityEvent) (info : Option TunnelInfo)
    (e e' : E) :
    Recovering time ((reportEvent event info e e' h).emit (notice event.available)) := by
  have hread : Always (Justified time) (reportEvent event info e e' h).past :=
    always_snoc.mpr ⟨always_snoc.mpr ⟨hh.notified, fun h => by cases h⟩, fun h => by cases h⟩
  refine .of_none (always_snoc.mpr ⟨hread, fun hnotice => ?_⟩) rfl
  have havail : event.available = true := by
    by_contra hdown
    rw [Bool.not_eq_true] at hdown
    rw [hdown] at hnotice
    cases hnotice
  refine ⟨?_, .inl ⟨h.past, event, _, info, _, List.append_assoc .., havail⟩⟩
  exact (NetworkRecoveryHandler.onConnectivityChange_networkAvailable _ _).trans havail

theorem resumed (hd : Reads d time) (hh : Recovering time h) :
    Recovering time (
      let now := (d.client.setCurrentTime h.now.env).1
      let r := h.now.conn.networkRecoveryHandler.onResumed now
      let h' := h.set ⟨(d.client.setCurrentTime h.now.env).2, h.now.conn.withRecovery r.2⟩
      if r.1 then h'.emit .notifyNetworkChange else h') := by
  dsimp only
  split
  · next hfires =>
    obtain ⟨havail, deadline, hpending, hdue⟩ := NetworkRecoveryHandler.onResumed_fires.mp hfires
    refine .of_none (always_snoc.mpr ⟨hh.notified, fun _ => ⟨?_, .inr ⟨deadline, ?_, ?_⟩⟩⟩) ?_
    · exact (NetworkRecoveryHandler.onResumed_networkAvailable _ _).trans havail
    · exact hdue.trans (hd.setCurrentTime _).ge
    · exact hh.pending deadline hpending
    · simp [withRecovery, NetworkRecoveryHandler.onResumed_of_fires hfires]
  · next hquiet =>
    rw [Bool.not_eq_true] at hquiet
    rw [NetworkRecoveryHandler.onResumed_of_not_fires hquiet]
    exact ⟨hh.pending, hh.notified⟩

theorem move (hd : Reads d time) (hmove : NetworkMove d h h') (hh : Recovering time h) :
    Recovering time h' := by
  cases hmove with
  | placid hs => exact hh.placid hs
  | error streamId kind => exact hh.error hd streamId kind
  | opened streamId target => exact .of_none (snoc_notified hh.notified (by simp [Obs.network])) rfl
  | connected info => exact hh.connected info
  | changed event info e e' => exact hh.changed event info e e'
  | resumed => exact hh.resumed hd
  | announced hdown => exact hh.snoc (s := h.now) rfl (by simp [Obs.network]) rfl

end Recovering

/-- **Every notification has a cause.** In every run, whenever the client is told of a network
change, the network is available, and the loop is handling a connectivity message that says so, or
there was a network error of a socket since which the backoff then in force has passed. Since that
error no socket could be opened, no connectivity changed, no change was notified and the user was
not shown `Connected`. -/
theorem notification_caused (hd : Reads d time) (cfg : InitialConfig) (streams : S) (env : E)
    (n : Nat) : Always (Justified time) (exec d cfg streams env n).2.past := by
  have hinit : Recovering time (Hist.init ⟨env, initial d cfg streams⟩) := .of_none always_nil rfl
  exact (exec_of_moves (fun _ _ hmove hh => hh.move hd hmove) hinit n).notified

end Causes

end PvpnConnection

/-- `d` with a clock beside its environment that is a second further at each reading. -/
def PvpnDependencies.withTicks {E S X F : Type} (d : PvpnDependencies E S X F) :
    PvpnDependencies (E × Duration) S X F :=
  let tick (e : E × Duration) : Duration × (E × Duration) := (e.2 + second, e.1, e.2 + second)
  let d := d.zoom Lens.beside
  { d with client := { d.client with monotonicNow := tick, setCurrentTime := tick } }

namespace PvpnConnection

open Conn

theorem reads_withTicks {E S X F : Type} (d : PvpnDependencies E S X F) :
    Reads d.withTicks Prod.snd :=
  ⟨fun _ => rfl, fun _ => rfl⟩

/-- A socket finds the network unreachable. -/
def outage : Script where
  polls := [[{ streamId := 1, isReadable := true, isWritable := false, isError := false }]]
  reads := [(.err { kind := .networkUnreachable, message := "" }, [])]

/-- The client is told a second later. -/
theorem outage_notified :
    ∃ pre s post, (exec scripted.withTicks Script.plainConfig () (outage, 0) 3).2.past =
        pre ++ (.notifyNetworkChange, s) :: post ∧
      (InAnswer pre ∨ ∃ deadline ≤ s.env.2, Caused Prod.snd deadline pre) := by
  have htold : ((exec scripted.withTicks Script.plainConfig () (outage, 0) 3).2.past.any
      fun x => x.1.network = some true) = true := by
    decide +kernel
  obtain ⟨⟨o, s⟩, hmem, ho⟩ := List.any_eq_true.mp htold
  obtain ⟨pre, post, hsplit⟩ := List.append_of_mem hmem
  have hchange : o = .notifyNetworkChange := by
    cases o <;> first | rfl | cases ho
  subst hchange
  exact ⟨pre, s, post, hsplit, (notification_caused (reads_withTicks scripted) Script.plainConfig ()
    (outage, 0) 3 pre _ s post hsplit rfl).2⟩

end PvpnConnection

/-! ## What the client knows -/

/-- What may be observed before the client has heard of the network: the constructor adds its peers
first, and for a connectivity message the tunnel is asked for before the notification. -/
def Obs.mayLag : Obs → Bool
  | .peerAdd _ | .tunnelInfo _ | .notifyNetworkChange | .notifyNetworkDown => true
  | _ => false

theorem Obs.connectivity_of_isPlacid {o : Obs} (h : o.isPlacid = true) : o.connectivity = none := by
  cases o with
  | recv m =>
    cases m with
    | none => rfl
    | some m => cases m <;> first | rfl | cases h
  | _ => rfl

namespace PvpnConnection

open Conn

section Known

variable {E S X F : Type} {d : PvpnDependencies E S X F}

/-- What the client was told last about the network; it takes the network to be there at first. -/
def told (l : List (Obs × Sys E S F)) : Bool := (lastOf Obs.network l).getD true

/-- What the connectivity message received last said, or what was said at the `start`. -/
def heard (start : Bool) (l : List (Obs × Sys E S F)) : Bool :=
  ((lastOf Obs.connectivity l).map ConnectivityEvent.available).getD start

variable {start : Bool}

/-- An observation that concerns neither. -/
theorem told_snoc {o : Obs} (ho : o.network = none) (l : List (Obs × Sys E S F)) (s : Sys E S F) :
    told (l ++ [(o, s)]) = told l := by
  unfold told
  rw [lastOf_snoc_none ho]

theorem heard_snoc {o : Obs} (ho : o.connectivity = none) (l : List (Obs × Sys E S F))
    (s : Sys E S F) : heard start (l ++ [(o, s)]) = heard start l := by
  unfold heard
  rw [lastOf_snoc_none ho]

theorem told_append {seg : List (Obs × Sys E S F)} (hseg : ∀ x ∈ seg, x.1.isPlacid = true)
    (l : List (Obs × Sys E S F)) : told (l ++ seg) = told l := by
  unfold told
  rw [lastOf_append_of_none fun x hx => Obs.network_of_isPlacid (hseg x hx)]

theorem heard_append {seg : List (Obs × Sys E S F)} (hseg : ∀ x ∈ seg, x.1.isPlacid = true)
    (l : List (Obs × Sys E S F)) : heard start (l ++ seg) = heard start l := by
  unfold heard
  rw [lastOf_append_of_none fun x hx => Obs.connectivity_of_isPlacid (hseg x hx)]

/-- The client knew at the observation `o`. -/
def Known (start : Bool) (pre : List (Obs × Sys E S F)) (o : Obs) (_ : Sys E S F) : Prop :=
  o.mayLag = false → told pre = heard start pre

/-- The client and the handler know what was heard, and the client has known all along. -/
structure Knows (start : Bool) (h : Hist (Sys E S F) Obs) : Prop where
  told : told h.past = heard start h.past
  flag : h.now.conn.networkRecoveryHandler.networkAvailable = heard start h.past
  always : Always (Known start) h.past

namespace Knows

variable {h h' : Hist (Sys E S F) Obs}

theorem placid (hh : Knows start h) (hs : Placid h h') : Knows start h' := by
  have hflag : h'.now.conn.networkRecoveryHandler = h.now.conn.networkRecoveryHandler := hs.core
  have halways : Always (Known start) h'.past := by
    refine hs.observed.always (fun seg o s hseg _ _ => ?_) hh.always
    rw [told_append hseg, heard_append hseg]
    exact hh.told
  obtain ⟨seg, hpast, hseg⟩ := hs.observed
  refine ⟨?_, ?_, halways⟩
  · rw [hpast, told_append hseg, heard_append hseg]
    exact hh.told
  · rw [hpast, heard_append hseg, hflag]
    exact hh.flag

/-- An observation that concerns neither the client's knowledge nor the flag. -/
theorem snoc (hh : Knows start h) {o : Obs} {s s' : Sys E S F} (ho : o.network = none)
    (ho' : o.connectivity = none)
    (hs : s'.conn.networkRecoveryHandler.networkAvailable =
      h.now.conn.networkRecoveryHandler.networkAvailable) :
    Knows start ⟨s', h.past ++ [(o, s)]⟩ where
  told := by
    rw [told_snoc ho, heard_snoc ho']
    exact hh.told
  flag := by
    rw [heard_snoc ho', ← hh.flag]
    exact hs
  always := always_snoc.mpr ⟨hh.always, fun _ => hh.told⟩

/-- The client is told what is so. -/
theorem notice (halways : Always (Known start) h.past) {available : Bool}
    (hflag : h.now.conn.networkRecoveryHandler.networkAvailable = available)
    (hheard : heard start h.past = available) :
    Knows start (h.emit (PvpnConnection.notice available)) := by
  have hnetwork : (PvpnConnection.notice available).network = some available := by
    cases available <;> rfl
  have hlag : (PvpnConnection.notice available).mayLag = true := by cases available <;> rfl
  have hconnectivity : (PvpnConnection.notice available).connectivity = none := by
    cases available <;> rfl
  refine ⟨?_, ?_, always_snoc.mpr ⟨halways, fun h => absurd h (by simp [hlag])⟩⟩
  · rw [Hist.emit_past, heard_snoc hconnectivity, hheard, PvpnConnection.told,
      lastOf_snoc_some hnetwork]
    rfl
  · rw [Hist.emit_past, heard_snoc hconnectivity, hheard]
    exact hflag

theorem changed (hh : Knows start h) (event : ConnectivityEvent) (info : Option TunnelInfo)
    (e e' : E) :
    Knows start ((reportEvent event info e e' h).emit (PvpnConnection.notice event.available)) := by
  refine notice ?_ (NetworkRecoveryHandler.onConnectivityChange_networkAvailable _ _) ?_
  · refine always_snoc.mpr ⟨always_snoc.mpr ⟨hh.always, fun _ => hh.told⟩, fun hlag => ?_⟩
    cases hlag
  · show heard start (h.past ++ [(.recv (some (.connectivityChange event)), _)] ++
      [(.tunnelInfo info, _)]) = event.available
    rw [heard_snoc rfl, heard, lastOf_snoc_some (f := Obs.connectivity) (b := event) rfl]
    rfl

theorem resumed (hh : Knows start h) :
    Knows start (
      let now := (d.client.setCurrentTime h.now.env).1
      let r := h.now.conn.networkRecoveryHandler.onResumed now
      let h' := h.set ⟨(d.client.setCurrentTime h.now.env).2, h.now.conn.withRecovery r.2⟩
      if r.1 then h'.emit .notifyNetworkChange else h') := by
  dsimp only
  have hflag := NetworkRecoveryHandler.onResumed_networkAvailable h.now.conn.networkRecoveryHandler
    (d.client.setCurrentTime h.now.env).1
  split
  · next hfires =>
    obtain ⟨havail, -⟩ := NetworkRecoveryHandler.onResumed_fires.mp hfires
    show Knows start (Hist.emit _ (PvpnConnection.notice true))
    refine notice ?_ ?_ ?_
    · exact hh.always
    · exact hflag.trans havail
    · exact hh.flag.symm.trans havail
  · exact ⟨hh.told, hflag.trans hh.flag, hh.always⟩

theorem move (hmove : NetworkMove d h h') (hh : Knows start h) : Knows start h' := by
  cases hmove with
  | placid hs => exact hh.placid hs
  | error streamId kind =>
    exact hh.snoc rfl rfl (NetworkRecoveryHandler.onStreamError_networkAvailable _ _ _)
  | opened streamId target => exact hh.snoc rfl rfl rfl
  | connected info =>
    refine hh.snoc rfl rfl ?_
    show (noteConnected h.now.conn).networkRecoveryHandler.networkAvailable = _
    unfold noteConnected
    split <;> rfl
  | changed event info e e' => exact hh.changed event info e e'
  | resumed => exact hh.resumed
  | announced hdown =>
    show Knows start (h.emit (PvpnConnection.notice false))
    exact notice hh.always hdown (hh.flag.symm.trans hdown)

end Knows

/-- Only peers have been handed to the client yet. -/
structure Fresh (start : Bool) (h : Hist (Sys E S F) Obs) : Prop where
  flag : h.now.conn.networkRecoveryHandler.networkAvailable = start
  peers : ∀ x ∈ h.past, ∃ peer, x.1 = .peerAdd peer

namespace Fresh

variable {h : Hist (Sys E S F) Obs}

theorem told (hh : Fresh start h) : told h.past = true := by
  unfold PvpnConnection.told
  rw [lastOf_of_none fun x hx => ?_]
  · rfl
  · obtain ⟨peer, hpeer⟩ := hh.peers x hx
    rw [hpeer]
    rfl

theorem heard (hh : Fresh start h) : heard start h.past = start := by
  unfold PvpnConnection.heard
  rw [lastOf_of_none fun x hx => ?_]
  · rfl
  · obtain ⟨peer, hpeer⟩ := hh.peers x hx
    rw [hpeer]
    rfl

theorem always (hh : Fresh start h) : Always (Known start) h.past := by
  intro pre o s post hsplit hlag
  obtain ⟨peer, rfl⟩ := hh.peers (o, s) (by simp [hsplit])
  cases hlag

theorem inv_addPeer (peer : PeerInfo) :
    Prog.Inv (Fresh start) (addPeer d peer : Conn E S F Unit) := by
  intro h hh
  refine ⟨hh.flag, fun x hx => ?_⟩
  rcases List.mem_append.mp hx with hx | hx
  · exact hh.peers x hx
  · exact ⟨peer.asPeer, by rw [List.mem_singleton.mp hx]⟩

theorem announceNetwork (hh : Fresh start h) : Knows start (announceNetwork d h).2 := by
  unfold PvpnConnection.announceNetwork
  rw [conn_bind]
  cases havail : h.now.conn.networkRecoveryHandler.networkAvailable with
  | true =>
    have hstart : start = true := hh.flag.symm.trans havail
    rw [Prog.when_neg (by simp)]
    exact ⟨hh.told.trans (hh.heard.trans hstart).symm, hh.flag.trans hh.heard.symm, hh.always⟩
  | false =>
    have hstart : start = false := hh.flag.symm.trans havail
    rw [Prog.when_pos (by simp)]
    have htold : Knows start (h.emit (notice false)) :=
      .notice hh.always havail (hh.heard.trans hstart)
    have henv := placid_env (h.emit .notifyNetworkDown) (d.client.notifyNetworkDown h.now.env)
    have hset := placid_setState d (.connecting [] [.waitingForNetwork])
    exact htold.placid (trans_of Placid henv (hset _))

end Fresh

theorem inv_knows {α : Type} {x : Conn E S F α} (hx : Prog.Rel (NetworkMoves d) x) :
    Prog.Inv (Knows start) x := by
  refine hx.inv fun h h' hs hh => ?_
  induction hs with
  | refl => exact hh
  | tail _ hmove ih => exact ih.move hmove

theorem knows_new (cfg : InitialConfig) :
    Prog.Triple (Fresh start) (new d cfg : Conn E S F Unit) (fun _ => Knows start)
      (Knows start) := by
  refine Prog.triple_bind (R := fun _ => Fresh start) (fun _ hh => hh) fun c => ?_
  refine Prog.triple_bind (R := fun _ => Fresh start) ?_ fun _ => ?_
  · exact (Prog.inv_forEach Fresh.inv_addPeer _).triple_of_returns
      (Prog.returns_forEach (fun _ h => ⟨_, _, rfl⟩) _)
  refine Prog.triple_bind (R := fun _ => Knows start) ?_ fun _ => ?_
  · exact Prog.triple_of_leaves (fun _ hh => hh.announceNetwork) fun _ => id
  · exact ((placid_options d cfg).inv fun _ _ hs hh => hh.placid hs).triple fun _ => id

/-- **The client knows the network.** In every run, whatever is observed other than a peer that is
added, an answer about the tunnel or a notification itself: the client was told last what the last
connectivity message said, or what the configuration said if there was none. -/
theorem client_knows_network (d : PvpnDependencies E S X F) (cfg : InitialConfig) (streams : S)
    (env : E) (n : Nat) :
    Always (Known cfg.networkAvailable) (exec d cfg streams env n).2.past ∧
      told (exec d cfg streams env n).2.past =
        heard cfg.networkAvailable (exec d cfg streams env n).2.past := by
  have hrun : Prog.Inv (Knows cfg.networkAvailable) (run d n : Conn E S F Unit) :=
    inv_knows (rel_of_inv fun h₀ => (keptByLoop_moves d h₀).keptByIterations.run n)
  have hfresh : Fresh cfg.networkAvailable (Hist.init ⟨env, initial d cfg streams⟩) :=
    ⟨rfl, fun x hx => absurd hx List.not_mem_nil⟩
  have hknows : Knows cfg.networkAvailable (exec d cfg streams env n).2 :=
    (Prog.triple_bind (knows_new cfg) fun _ => hrun.triple fun _ => id).leaves (fun _ _ => id)
      hfresh
  exact ⟨hknows.always, hknows.told⟩

end Known

end PvpnConnection

end Protun
