import Protun.Connection.PeerTable
import Protun.Connection.Writable

/-!
# Is an update atomic?

`Connection::update` is documented as an atomic update of peers, local-agent settings and TUN. The
message is handled part by part (`handleUpdate_spec`). Peers and settings cannot fail. `update_tun`
closes the old TUN first, and only then asks the poll to register the new descriptor, which may
fail; the error is logged.

* `updateTun_noTun`, `updateTun_registered`, `updateTun_failed`: what `MioStreams::update_tun`
  leaves.
* **`update_atomic_iff`**: all parts are applied, or the registration fails and nothing has changed,
  iff the registration does not fail or nothing else was to change.
  `update_half_applied`: an update that is applied by half.
-/

namespace Protun

open Trace Mio

/-! ## Replacing the TUN -/

namespace Mio.MioStreams

variable {E X : Type} (registry : Registry E) (factory : MioSocketFactory E X) (tunId : StreamId)
  (s : MioStreams X) (e : E)

theorem updateTun_noTun :
    getStreamById (s.updateTun registry factory tunId .noTun e).2.1.streams tunId = none :=
  getStreamById_closeStream_self e

variable {registry tunId s e}

theorem registerStream_of_ok (streamId : StreamId) (stream : X) {interest : Interest}
    (hok : (registry.register s.nextToken interest e).1 = .ok ()) :
    (s.registerStream registry streamId stream interest e).2.1.streams = s.streams ++
      [{ streamId, stream, token := s.nextToken, interest, registered := interest }] := by
  unfold registerStream
  dsimp only
  split
  · rfl
  · rename_i err e' hregister
    rw [hregister] at hok
    cases hok

theorem registerStream_of_error (streamId : StreamId) (stream : X) {interest : Interest}
    {err : IoError} (herr : (registry.register s.nextToken interest e).1 = .error err) :
    (s.registerStream registry streamId stream interest e).2.1.streams = s.streams := by
  unfold registerStream
  dsimp only
  split
  · rename_i e' hregister
    rw [hregister] at herr
    cases herr
  · rfl

/-- The poll takes the new descriptor. -/
theorem updateTun_registered {fd : Int}
    (hok : (registry.register s.nextToken .readable (s.closeStream registry tunId e).2).1 =
      .ok ()) :
    ∃ info, getStreamById (s.updateTun registry factory tunId (.tunFd fd) e).2.1.streams tunId =
      some info ∧ info.stream = factory.newTun fd := by
  have hclosed : getStreamById (s.closeStream registry tunId e).1.streams tunId = none :=
    getStreamById_closeStream_self e
  have hstreams := registerStream_of_ok (s := (s.closeStream registry tunId e).1) tunId
    (factory.newTun fd) hok
  refine ⟨⟨tunId, factory.newTun fd, s.nextToken, .readable, .readable⟩, ?_, rfl⟩
  unfold getStreamById at hclosed ⊢
  rw [updateTun, hstreams, List.find?_append, hclosed]
  simp [closeStream]

/-- The poll refuses it: the old TUN is closed already. -/
theorem updateTun_failed {fd : Int} {err : IoError}
    (herr : (registry.register s.nextToken .readable (s.closeStream registry tunId e).2).1 =
      .error err) :
    getStreamById (s.updateTun registry factory tunId (.tunFd fd) e).2.1.streams tunId = none := by
  have hstreams := registerStream_of_error (s := (s.closeStream registry tunId e).1) tunId
    (factory.newTun fd) herr
  rw [updateTun, hstreams]
  exact getStreamById_closeStream_self e

end Mio.MioStreams

namespace PvpnConnection

open Conn

/-! ## The parts of an update -/

section Parts

variable {E S X F : Type} (d : PvpnDependencies E S X F)

/-- The peers after an update. -/
def peersAfter (u : ConfigUpdate) (c : PvpnConnection S F) : SanitizedPeers :=
  (u.peers.map SanitizedPeers.fromPeers).getD c.peers

/-- The settings after an update; without local agent there are none. -/
def settingsAfter (u : ConfigUpdate) (c : PvpnConnection S F) : Option LocalAgentSettings :=
  c.localAgentSettings.map u.settings.getD

theorem updateLocalAgentSettings_spec (settings : LocalAgentSettings)
    (h : Hist (Sys E S F) Obs) :
    ∃ h', updateLocalAgentSettings d settings h = (some (), h') ∧
      h'.now.conn = { h.now.conn with
        localAgentSettings := h.now.conn.localAgentSettings.map fun _ => settings } := by
  unfold updateLocalAgentSettings
  rw [conn_bind]
  cases hs : h.now.conn.localAgentSettings with
  | none => exact ⟨h, rfl, by rw [Option.map_none, ← hs]⟩
  | some current =>
    dsimp only
    by_cases hne : current ≠ settings
    · rw [Prog.when_pos hne]
      exact ⟨_, rfl, rfl⟩
    · rw [Prog.when_neg hne]
      exact ⟨h, rfl, by rw [Option.map_some, ← not_not.mp hne, ← hs]⟩

/-- `update_tun` touches the streams and the TUN error only. -/
theorem updateTun_spec (tunInfo : TunStreamInfo) (h : Hist (Sys E S F) Obs) :
    ∃ h', updateTun d tunInfo h = (some (), h') ∧
      h'.now.conn.streams = (d.streams.updateTun tunInfo h.now.conn.streams h.now.env).2.1 ∧
      h'.now.conn.peers = h.now.conn.peers ∧
      h'.now.conn.localAgentSettings = h.now.conn.localAgentSettings := by
  unfold updateTun
  simp only [Prog.bind_apply, streamsDo, Prog.emit_apply]
  cases (d.streams.updateTun tunInfo h.now.conn.streams h.now.env).1 with
  | error err => exact ⟨_, rfl, rfl, rfl, rfl⟩
  | ok a => exact ⟨_, rfl, rfl, rfl, rfl⟩

/-- The first two parts: peers and settings. -/
def updatePeersAndSettings (u : ConfigUpdate) : Conn E S F Unit := do
  ifSome u.peers fun peers => updatePeers d (SanitizedPeers.fromPeers peers)
  ifSome u.settings (updateLocalAgentSettings d)

theorem updatePeersAndSettings_spec (u : ConfigUpdate) (h : Hist (Sys E S F) Obs) :
    ∃ h', updatePeersAndSettings d u h = (some (), h') ∧
      h'.now.conn = { h.now.conn with
        peers := peersAfter u h.now.conn
        localAgentSettings := settingsAfter u h.now.conn } := by
  obtain ⟨h₁, hpeers, hconn₁⟩ : ∃ h₁,
      ifSome u.peers (fun peers => updatePeers d (SanitizedPeers.fromPeers peers)) h =
        (some (), h₁) ∧
      h₁.now.conn = { h.now.conn with peers := peersAfter u h.now.conn } := by
    unfold peersAfter
    cases u.peers with
    | none => exact ⟨h, rfl, rfl⟩
    | some peers =>
      obtain ⟨h₁, hrun, hconn, -⟩ := updatePeers_spec d (SanitizedPeers.fromPeers peers) h
      exact ⟨h₁, hrun, hconn⟩
  unfold updatePeersAndSettings
  rw [Prog.bind_of_some hpeers]
  unfold settingsAfter
  cases u.settings with
  | none =>
    have hid : (none : Option LocalAgentSettings).getD = id := rfl
    exact ⟨h₁, rfl, by rw [hconn₁, hid, Option.map_id, id]⟩
  | some settings =>
    obtain ⟨h₂, hrun, hconn₂⟩ := updateLocalAgentSettings_spec d settings h₁
    exact ⟨h₂, hrun, by rw [hconn₂, hconn₁]; rfl⟩

/-- **The update, part by part.** -/
theorem handleUpdate_spec (u : ConfigUpdate) (h : Hist (Sys E S F) Obs) :
    ∃ h', handleUpdate d u h = (some (), h') ∧
      h'.now.conn.peers = peersAfter u h.now.conn ∧
      h'.now.conn.localAgentSettings = settingsAfter u h.now.conn ∧
      h'.now.conn.streams =
        match u.tun with
        | none => h.now.conn.streams
        | some tunInfo => (d.streams.updateTun tunInfo h.now.conn.streams
            (updatePeersAndSettings d u h).2.now.env).2.1 := by
  obtain ⟨h₁, hfirst, hconn⟩ := updatePeersAndSettings_spec d u h
  have hsplit : handleUpdate d u h = ifSome u.tun (updateTun d) h₁ := by
    obtain ⟨_, h₀, hpeers, hrest⟩ := Prog.bind_returned (congrArg Prod.fst hfirst)
    unfold handleUpdate
    rw [Prog.bind_of_some hpeers]
    exact Prog.bind_of_some (hrest.symm.trans hfirst)
  rw [hsplit, hfirst]
  cases u.tun with
  | none => exact ⟨h₁, rfl, by rw [hconn], by rw [hconn], by rw [hconn]⟩
  | some tunInfo =>
    obtain ⟨h₂, hrun, hstreams, hpeers, hsettings⟩ := updateTun_spec d tunInfo h₁
    exact ⟨h₂, hrun, by rw [hpeers, hconn], by rw [hsettings, hconn], by rw [hstreams, hconn]⟩

end Parts

/-! ## Atomicity -/

section Atomic

variable {E F : Type} (d : PvpnDependencies E (MioStreams MioStream) MioStream F) (os : UnixOs E)
  (registry : Registry E)

/-- The registered TUN stream. -/
def tunStream (c : PvpnConnection (MioStreams MioStream) F) : Option (MioStreamInfo MioStream) :=
  getStreamById c.streams.streams d.ids.tun

/-- All parts that are present have been applied, and the others are as before. -/
structure Applied (u : ConfigUpdate) (c c' : PvpnConnection (MioStreams MioStream) F) : Prop where
  peers : c'.peers = peersAfter u c
  settings : c'.localAgentSettings = settingsAfter u c
  /-- The new descriptor is registered, or with `NoTun` nothing is. -/
  tun : match u.tun with
    | none => tunStream d c' = tunStream d c
    | some .noTun => tunStream d c' = none
    | some (.tunFd fd) => ∃ info, tunStream d c' = some info ∧ info.stream = MioStream.newTun os fd

/-- Peers, settings and the registered TUN stream are as before. -/
structure Unchanged (c c' : PvpnConnection (MioStreams MioStream) F) : Prop where
  peers : c'.peers = c.peers
  settings : c'.localAgentSettings = c.localAgentSettings
  tun : tunStream d c' = tunStream d c

/-- The poll refuses the new descriptor when it is asked to register it: after the calls for peers
and settings, and after the old TUN has been closed. -/
def RegisterFails (u : ConfigUpdate)
    (h : Hist (Sys E (MioStreams MioStream) F) Obs) : Prop :=
  let e := (h.now.conn.streams.closeStream registry d.ids.tun
    (updatePeersAndSettings d u h).2.now.env).2
  ∃ fd err, u.tun = some (.tunFd fd) ∧
    (registry.register h.now.conn.streams.nextToken .readable e).1 = .error err

/-- The new descriptor apart, the update changes nothing: peers and settings are the ones the
connection has, and there is no TUN to be closed. -/
structure NothingElse (u : ConfigUpdate) (c : PvpnConnection (MioStreams MioStream) F) :
    Prop where
  peers : ∀ peers, u.peers = some peers → SanitizedPeers.fromPeers peers = c.peers
  settings : ∀ settings current, u.settings = some settings →
    c.localAgentSettings = some current → settings = current
  tun : tunStream d c = none

theorem peersAfter_eq_iff {u : ConfigUpdate} {c : PvpnConnection (MioStreams MioStream) F} :
    peersAfter u c = c.peers ↔
      ∀ peers, u.peers = some peers → SanitizedPeers.fromPeers peers = c.peers := by
  unfold peersAfter
  cases u.peers <;> simp

theorem settingsAfter_eq_iff {u : ConfigUpdate} {c : PvpnConnection (MioStreams MioStream) F} :
    settingsAfter u c = c.localAgentSettings ↔
      ∀ settings current, u.settings = some settings →
        c.localAgentSettings = some current → settings = current := by
  unfold settingsAfter
  cases u.settings <;> cases c.localAgentSettings <;> simp

variable {d os registry} {m : Nat} (hd : d.streams = Mio.streams os registry d.ids.tun m)
include hd

/-- What the update does if the registration fails: there is no TUN any more. -/
theorem handleUpdate_of_fails {u : ConfigUpdate} {h h' : Hist (Sys E (MioStreams MioStream) F) Obs}
    (hrun : handleUpdate d u h = (some (), h')) (hfails : RegisterFails d registry u h) :
    h'.now.conn.peers = peersAfter u h.now.conn ∧
      h'.now.conn.localAgentSettings = settingsAfter u h.now.conn ∧
      tunStream d h'.now.conn = none := by
  obtain ⟨fd, err, htun, herr⟩ := hfails
  obtain ⟨h'', hrun', hpeers, hsettings, hstreams⟩ := handleUpdate_spec d u h
  obtain rfl : h' = h'' := congrArg Prod.snd (hrun.symm.trans hrun')
  refine ⟨hpeers, hsettings, ?_⟩
  rw [htun, hd] at hstreams
  unfold tunStream
  rw [hstreams]
  exact MioStreams.updateTun_failed (socketFactoryUnix os) herr

/-- If it does not fail, all parts are applied. -/
theorem applied_of_not_fails {u : ConfigUpdate} {h h' : Hist (Sys E (MioStreams MioStream) F) Obs}
    (hrun : handleUpdate d u h = (some (), h')) (hok : ¬ RegisterFails d registry u h) :
    Applied d os u h.now.conn h'.now.conn := by
  obtain ⟨h'', hrun', hpeers, hsettings, hstreams⟩ := handleUpdate_spec d u h
  obtain rfl : h' = h'' := congrArg Prod.snd (hrun.symm.trans hrun')
  refine ⟨hpeers, hsettings, ?_⟩
  rw [hd] at hstreams
  unfold tunStream
  cases htun : u.tun with
  | none =>
    rw [htun] at hstreams
    simp only [hstreams]
  | some tunInfo =>
    rw [htun] at hstreams
    rw [hstreams]
    cases tunInfo with
    | noTun => exact MioStreams.updateTun_noTun registry (socketFactoryUnix os) _ _ _
    | tunFd fd =>
      refine MioStreams.updateTun_registered (socketFactoryUnix os) ?_
      cases hanswer : (registry.register h.now.conn.streams.nextToken .readable
          (h.now.conn.streams.closeStream registry d.ids.tun
            (updatePeersAndSettings d u h).2.now.env).2).1 with
      | ok a => rfl
      | error err => exact absurd ⟨fd, err, htun, hanswer⟩ hok

/-- **Is an update atomic?** For every connection and every update: all parts are applied, or the
registration fails and peers, settings and TUN are as before, iff the registration does not fail or
nothing else was to change. -/
theorem update_atomic_iff (u : ConfigUpdate) (h : Hist (Sys E (MioStreams MioStream) F) Obs) :
    ∃ h', handleMessage d (.update u) h = (some (), h') ∧
      (Applied d os u h.now.conn h'.now.conn ∨
          RegisterFails d registry u h ∧ Unchanged d h.now.conn h'.now.conn ↔
        ¬ RegisterFails d registry u h ∨ NothingElse d u h.now.conn) := by
  obtain ⟨h', hrun, -⟩ := handleUpdate_spec d u h
  refine ⟨h', hrun, ?_⟩
  by_cases hfails : RegisterFails d registry u h
  · obtain ⟨hpeers, hsettings, hnone⟩ := handleUpdate_of_fails hd hrun hfails
    constructor
    · rintro (happlied | ⟨-, hsame⟩)
      · -- the descriptor is not registered
        obtain ⟨fd, err, htun, -⟩ := hfails
        have htun' := happlied.tun
        rw [htun] at htun'
        obtain ⟨info, hinfo, -⟩ := htun'
        rw [hnone] at hinfo
        cases hinfo
      · refine .inr ⟨peersAfter_eq_iff.mp ?_, settingsAfter_eq_iff.mp ?_, ?_⟩
        · exact hpeers.symm.trans hsame.peers
        · exact hsettings.symm.trans hsame.settings
        · exact hsame.tun.symm.trans hnone
    · rintro (hok | helse)
      · exact absurd hfails hok
      · refine .inr ⟨hfails, ?_, ?_, hnone.trans helse.tun.symm⟩
        · exact hpeers.trans (peersAfter_eq_iff.mpr helse.peers)
        · exact hsettings.trans (settingsAfter_eq_iff.mpr helse.settings)
  · exact ⟨fun _ => .inl hfails, fun _ => .inl (applied_of_not_fails hd hrun hfails)⟩

end Atomic

end PvpnConnection

/-! ## A descriptor that is refused -/

namespace Script

open PvpnConnection

/-- A poll that takes the first descriptor and no other. -/
def oneStream : Registry Script :=
  { mioRegistry with
    register := fun token _ e =>
      (if token = 1 then .ok () else .error { kind := .invalidInput, message := "EBADF" }, e) }

/-- The world of a script with the streams of mio and that poll. -/
def scriptedOneStream : PvpnDependencies Script (MioStreams MioStream) MioStream Unit :=
  { scripted with streams := Mio.streams mioOs oneStream 0 4 }

/-- The connection after its construction with a TUN device, before any message. -/
def withTun (d : PvpnDependencies Script (MioStreams MioStream) MioStream Unit) :
    Hist (Sys Script (MioStreams MioStream) Unit) Obs :=
  let tun := MioStream.newTun mioOs 3
  Hist.init ⟨{}, initial d plainConfig
    { streams := [⟨0, tun, 1, .readable, .readable⟩], nextToken := 2, registrations := [1] }⟩

/-- A peer. -/
def somePeer : PeerInfo where
  peerId := "P"
  serverIp := .v4 0x01020304
  serverPublicKey := Vector.replicate 32 0
  udpPorts := [51820]
  tcpPorts := []
  tlsPorts := []
  priority := 0
  exitLabel := none

/-- A new peer and a new TUN descriptor. -/
def peerAndTun : ConfigUpdate where
  peers := some [somePeer]
  settings := none
  tun := some (.tunFd 7)

/-- The descriptor is taken: both parts are applied. -/
theorem update_applied :
    scriptedMio.streams = Mio.streams mioOs mioRegistry scriptedMio.ids.tun 4 ∧
      ∃ h', handleMessage scriptedMio (.update peerAndTun) (withTun scriptedMio) = (some (), h') ∧
        (Applied scriptedMio mioOs peerAndTun (withTun scriptedMio).now.conn h'.now.conn ∨
          RegisterFails scriptedMio mioRegistry peerAndTun (withTun scriptedMio) ∧
            Unchanged scriptedMio (withTun scriptedMio).now.conn h'.now.conn) := by
  refine ⟨rfl, ?_⟩
  obtain ⟨h', hrun, hiff⟩ := @update_atomic_iff _ _ scriptedMio mioOs mioRegistry 4 rfl peerAndTun
    (withTun scriptedMio)
  refine ⟨h', hrun, hiff.mpr (.inl ?_)⟩
  rintro ⟨fd, err, -, herr⟩
  cases herr

/-- The descriptor is refused. The peers have changed, and the old TUN is gone. -/
theorem update_half_applied :
    let c := (withTun scriptedOneStream).now.conn
    let c' := (handleMessage scriptedOneStream (.update peerAndTun)
      (withTun scriptedOneStream)).2.now.conn
    RegisterFails scriptedOneStream oneStream peerAndTun (withTun scriptedOneStream) ∧
      c.peers.list = [] ∧ c'.peers.list = [somePeer] ∧
      (tunStream scriptedOneStream c).isSome = true ∧
      (tunStream scriptedOneStream c').isSome = false := by
  refine ⟨⟨7, _, rfl, rfl⟩, ?_⟩
  decide

end Script

end Protun
