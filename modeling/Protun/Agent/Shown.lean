import Protun.Agent.Calls
import Protun.Data.Window

/-!
# What the local-agent handler shows

`get_state` shows the user whether the local agent is connected, why not, and what the server has
said about the session. All of it comes from the messages since the last peer change (`told`): a
call of `on_connected_to_peer` with another peer than the call before it.

* `AgentConnectionInfo.ofTold`: the record with the latest value of every kind of message.
* `run_shows`: what the handler holds after any sequence of calls. It is the latest value of every
  kind, but for the restrictions, which are never copied into the record that is shown.
* **`getState_connected_iff`**: when the state is `Connected`, and what it is otherwise.
* **`shown_info_iff`**: when the record shown is the one that was told.
  `restrictions_not_shown`: a restriction that was told and is not shown.
-/

namespace Protun

open Window

/-! ## What was told -/

/-- The peer of the last `on_connected_to_peer`, and the messages since the last one whose peer was
not that of the one before it. -/
def toldStep (s : Option PeerConnectionInfo × List LocalAgentMessage) :
    AgentOp → Option PeerConnectionInfo × List LocalAgentMessage
  | .message m => (s.1, s.2 ++ [m])
  | .connectedTo peer => (some peer, if s.1 = none ∨ s.1 = some peer then s.2 else [])

/-- The messages since the last peer change. -/
def told (ops : List AgentOp) : List LocalAgentMessage := (ops.foldl toldStep (none, [])).2

namespace LocalAgentMessage

/-- The jails of a message; `None` is the empty set. -/
def jailSet : LocalAgentMessage → Option (List Jail)
  | .value (.jails jails) => some (match jails with
    | some jails => jails.items
    | none => [])
  | _ => none

def serverExitV4 : LocalAgentMessage → Option (Option IpAddr)
  | .value (.infoExitIpv4 address) => some (address.map .v4)
  | _ => none

def serverExitV6 : LocalAgentMessage → Option (Option IpAddr)
  | .value (.infoExitIpv6 address) => some (address.map .v6)
  | _ => none

def userIspIp : LocalAgentMessage → Option (Option String)
  | .value (.infoRemoteReal address) => some address
  | _ => none

def userIspCountryCode : LocalAgentMessage → Option (Option String)
  | .value (.infoRemoteRealLocationCode code) => some code
  | _ => none

def restrictions : LocalAgentMessage → Option (List Restriction)
  | .value (.restrictions restrictions) => some (match restrictions with
    | some restrictions => restrictions.map ClientRestriction.toApi
    | none => [])
  | _ => none

def groups : LocalAgentMessage → Option (List String)
  | .value (.infoGroups groups) => some (groups.getD [])
  | _ => none

def splitTcp : LocalAgentMessage → Option (Option Bool)
  | .value (.settingsSplitTcp setting) => some setting
  | _ => none

def netshieldLevel : LocalAgentMessage → Option (Option NetshieldLevel)
  | .value (.settingsNetshieldLevel setting) => some (setting.map ClientNetshieldLevel.toApi)
  | _ => none

def softJail : LocalAgentMessage → Option (Option Bool)
  | .value (.settingsSoftjail setting) => some setting
  | _ => none

def portForwarding : LocalAgentMessage → Option (Option Bool)
  | .value (.settingsPortForwarding setting) => some setting
  | _ => none

def randomNat : LocalAgentMessage → Option (Option Bool)
  | .value (.settingsRandomNat setting) => some setting
  | _ => none

def circumventionRouting : LocalAgentMessage → Option (Option Bool)
  | .value (.settingsCircumventionRouting setting) => some setting
  | _ => none

end LocalAgentMessage

/-- The latest value told for a field, or its default. -/
def toldField {β : Type} (field : LocalAgentMessage → Option β) (default : β)
    (w : List LocalAgentMessage) : β :=
  (latest field w).getD default

@[simp] theorem toldField_nil {β : Type} (field : LocalAgentMessage → Option β) (default : β) :
    toldField field default [] = default := rfl

@[simp] theorem toldField_snoc {β : Type} (field : LocalAgentMessage → Option β) (default : β)
    (w : List LocalAgentMessage) (m : LocalAgentMessage) :
    toldField field default (w ++ [m]) = (field m).getD (toldField field default w) := by
  unfold toldField
  rw [latest_snoc]
  cases field m <;> rfl

/-- The record with the latest value of every kind of message. -/
def AgentConnectionInfo.ofTold (w : List LocalAgentMessage) : AgentConnectionInfo where
  serverExitV4 := toldField LocalAgentMessage.serverExitV4 none w
  serverExitV6 := toldField LocalAgentMessage.serverExitV6 none w
  userIspIp := toldField LocalAgentMessage.userIspIp none w
  userIspCountryCode := toldField LocalAgentMessage.userIspCountryCode none w
  -- no message carries the name of the provider
  userIspName := none
  restrictions := toldField LocalAgentMessage.restrictions [] w
  groups := toldField LocalAgentMessage.groups [] w
  settings := {
    splitTcp := toldField LocalAgentMessage.splitTcp none w
    netshieldLevel := toldField LocalAgentMessage.netshieldLevel none w
    softJail := toldField LocalAgentMessage.softJail none w
    portForwarding := toldField LocalAgentMessage.portForwarding none w
    randomNat := toldField LocalAgentMessage.randomNat none w
    circumventionRouting := toldField LocalAgentMessage.circumventionRouting none w }

/-- The record after one more message. -/
def LocalAgentMessage.revise (m : LocalAgentMessage) (info : AgentConnectionInfo) :
    AgentConnectionInfo := { info with
  serverExitV4 := m.serverExitV4.getD info.serverExitV4
  serverExitV6 := m.serverExitV6.getD info.serverExitV6
  userIspIp := m.userIspIp.getD info.userIspIp
  userIspCountryCode := m.userIspCountryCode.getD info.userIspCountryCode
  groups := m.groups.getD info.groups
  settings := {
    splitTcp := m.splitTcp.getD info.settings.splitTcp
    netshieldLevel := m.netshieldLevel.getD info.settings.netshieldLevel
    softJail := m.softJail.getD info.settings.softJail
    portForwarding := m.portForwarding.getD info.settings.portForwarding
    randomNat := m.randomNat.getD info.settings.randomNat
    circumventionRouting := m.circumventionRouting.getD info.settings.circumventionRouting } }

/-- The restrictions apart, the record told is revised message by message. -/
theorem AgentConnectionInfo.ofTold_snoc (w : List LocalAgentMessage) (m : LocalAgentMessage) :
    { ofTold (w ++ [m]) with restrictions := [] } =
      m.revise { ofTold w with restrictions := [] } := by
  simp [ofTold, LocalAgentMessage.revise]

/-! ## What the handler holds -/

namespace LocalAgentHandler

theorem handleMessage_agentInfo (h : LocalAgentHandler) (m : LocalAgentMessage) :
    (h.handleMessage m).2.agentInfo = m.revise h.agentInfo := by
  cases m with
  | value value => cases value <;> rfl
  | _ => rfl

theorem handleMessage_jails (h : LocalAgentHandler) (m : LocalAgentMessage) :
    (h.handleMessage m).2.jails = (m.jailSet.map (·.map Jail.waitReason)).getD h.jails := by
  cases m with
  | value value =>
    cases value with
    | jails jails => cases jails <;> rfl
    | _ => rfl
  | _ => rfl

theorem handleMessage_isConnected_iff (h : LocalAgentHandler) (m : LocalAgentMessage) :
    (h.handleMessage m).2.isConnected = true ↔
      h.isConnected = true ∨ m = .localAgentConnected := by
  cases m with
  | value value => cases value <;> simp [handleMessage, handleValue, accumulate, handleJails]
  | _ => simp [handleMessage]

/-- The handler holds what was told, but no restrictions. -/
structure Shows (h : LocalAgentHandler) (w : List LocalAgentMessage) : Prop where
  isConnected : h.isConnected = true ↔ .localAgentConnected ∈ w
  jails : h.jails = (toldField LocalAgentMessage.jailSet [] w).map Jail.waitReason
  agentInfo : h.agentInfo = { AgentConnectionInfo.ofTold w with restrictions := [] }

/-- A handler that was told nothing, or has forgotten it. -/
theorem shows_nil {h : LocalAgentHandler} (hs : h.shown = ({} : LocalAgentHandler).shown) :
    Shows h [] := by
  simp only [shown, Prod.mk.injEq] at hs
  obtain ⟨hconnected, -, -, hinfo, hjails⟩ := hs
  exact ⟨by simp [hconnected], hjails, hinfo⟩

theorem Shows.congr {h h' : LocalAgentHandler} {w : List LocalAgentMessage} (hs : Shows h w)
    (heq : h'.shown = h.shown) : Shows h' w := by
  simp only [shown, Prod.mk.injEq] at heq
  obtain ⟨hconnected, -, -, hinfo, hjails⟩ := heq
  exact ⟨hconnected ▸ hs.isConnected, hjails.trans hs.jails, hinfo.trans hs.agentInfo⟩

theorem Shows.handleMessage {h : LocalAgentHandler} {w : List LocalAgentMessage} (hs : Shows h w)
    (m : LocalAgentMessage) : Shows (h.handleMessage m).2 (w ++ [m]) where
  isConnected := by
    rw [handleMessage_isConnected_iff, hs.isConnected]
    simp [eq_comm]
  jails := by
    rw [handleMessage_jails, hs.jails, toldField_snoc]
    cases m.jailSet <;> rfl
  agentInfo := by
    rw [handleMessage_agentInfo, hs.agentInfo, AgentConnectionInfo.ofTold_snoc]

theorem Shows.onConnectedToPeer {h : LocalAgentHandler} {w : List LocalAgentMessage}
    (hs : Shows h w) (peer : PeerConnectionInfo) :
    Shows (h.onConnectedToPeer peer)
      (if h.lastPeer = none ∨ h.lastPeer = some peer then w else []) := by
  have hshown := onConnectedToPeer_shown h peer
  by_cases hsame : h.lastPeer = none ∨ h.lastPeer = some peer
  · have hr : h.Remembers peer := hsame
    rw [if_pos hr] at hshown
    rw [if_pos hsame]
    exact hs.congr hshown
  · have hr : ¬ h.Remembers peer := hsame
    rw [if_neg hr] at hshown
    rw [if_neg hsame]
    exact shows_nil hshown

/-- **The handler holds what was told since the last peer change.** -/
theorem run_shows (ops : List AgentOp) :
    Shows (({} : LocalAgentHandler).run ops).2 (told ops) ∧
      (({} : LocalAgentHandler).run ops).2.lastPeer = (ops.foldl toldStep (none, [])).1 := by
  induction ops using List.reverseRecOn with
  | nil => exact ⟨shows_nil rfl, rfl⟩
  | append_singleton ops op ih =>
    obtain ⟨hshows, hpeer⟩ := ih
    unfold told at hshows ⊢
    rw [run_append, List.foldl_append]
    cases op with
    | message m => exact ⟨hshows.handleMessage m, (handleMessage_lastPeer _ m).trans hpeer⟩
    | connectedTo peer =>
      have hstep := hshows.onConnectedToPeer peer
      rw [hpeer] at hstep
      exact ⟨hstep, rfl⟩

end LocalAgentHandler

/-! ## What `get_state` shows -/

/-- The user is let through: the agent is connected and nothing told holds the user back. -/
structure Admitted (w : List LocalAgentMessage) : Prop where
  connected : .localAgentConnected ∈ w
  not_softJailed : latest LocalAgentMessage.softJail w ≠ some (some true)
  /-- The latest jail set, if any, is `None` or empty. -/
  not_jailed : toldField LocalAgentMessage.jailSet [] w = []

/-- Why the user is held back. The soft jail comes first; a set of jails is shown jail by jail. -/
def waitReasonTold (w : List LocalAgentMessage) : Option AgentConnectionWaitReason :=
  if latest LocalAgentMessage.softJail w = some (some true) then some .softJailed
  else if toldField LocalAgentMessage.jailSet [] w ≠ [] then
    some (.hardJailed ((toldField LocalAgentMessage.jailSet [] w).map Jail.waitReason))
  else none

namespace LocalAgentHandler

theorem Shows.getWaitReason {h : LocalAgentHandler} {w : List LocalAgentMessage}
    (hs : Shows h w) : h.getWaitReason = waitReasonTold w := by
  have hsoft : h.agentInfo.settings.softJail = some true ↔
      latest LocalAgentMessage.softJail w = some (some true) := by
    rw [hs.agentInfo]
    change (latest _ w).getD none = some true ↔ _
    cases latest LocalAgentMessage.softJail w <;> simp
  unfold LocalAgentHandler.getWaitReason waitReasonTold
  simp only [hsoft, hs.jails, List.isEmpty_iff, List.map_eq_nil_iff, ne_eq]

theorem Shows.getState {h : LocalAgentHandler} {w : List LocalAgentMessage} (hs : Shows h w)
    (peer : PeerConnectionInfo) :
    (Admitted w → h.getState peer = .connected peer (some h.agentInfo)) ∧
      (¬ Admitted w → h.getState peer = .connectingToLocalAgent peer (waitReasonTold w)) := by
  unfold LocalAgentHandler.getState
  rw [hs.getWaitReason]
  constructor
  · intro hw
    have hreason : waitReasonTold w = none := by
      rw [waitReasonTold, if_neg hw.not_softJailed, if_neg (not_not.mpr hw.not_jailed)]
    rw [hreason]
    exact if_pos (hs.isConnected.mpr hw.connected)
  · intro hw
    cases hreason : waitReasonTold w with
    | some reason => rfl
    | none =>
      -- no reason is left but that the agent is not connected
      refine if_neg fun hconnected => hw ⟨hs.isConnected.mp hconnected, ?_, ?_⟩
      · intro hsoft
        simp [waitReasonTold, hsoft] at hreason
      · by_contra hjailed
        unfold waitReasonTold at hreason
        rw [if_pos hjailed] at hreason
        split at hreason <;> cases hreason

/-- **The state is `Connected` iff the user is let through**; otherwise it is
`ConnectingToLocalAgent` with the reason. -/
theorem getState_connected_iff (ops : List AgentOp) (peer : PeerConnectionInfo) :
    ((∃ p info, (({} : LocalAgentHandler).run ops).2.getState peer = .connected p info) ↔
        Admitted (told ops)) ∧
      (¬ Admitted (told ops) →
        (({} : LocalAgentHandler).run ops).2.getState peer =
          .connectingToLocalAgent peer (waitReasonTold (told ops))) := by
  obtain ⟨hyes, hno⟩ := (run_shows ops).1.getState peer
  refine ⟨⟨?_, fun hw => ⟨_, _, hyes hw⟩⟩, hno⟩
  rintro ⟨p, info, hstate⟩
  by_contra hw
  rw [hno hw] at hstate
  cases hstate

/-- **The record shown is the one told** iff the latest restrictions, if any, are `None` or empty.
All other fields are always right. -/
theorem shown_info_iff {ops : List AgentOp} {peer p : PeerConnectionInfo} {i : AgentConnectionInfo}
    (hstate : (({} : LocalAgentHandler).run ops).2.getState peer = .connected p (some i)) :
    (i = AgentConnectionInfo.ofTold (told ops) ↔
        toldField LocalAgentMessage.restrictions [] (told ops) = []) ∧
      i = { AgentConnectionInfo.ofTold (told ops) with restrictions := [] } := by
  have hshows := (run_shows ops).1
  have hi : i = { AgentConnectionInfo.ofTold (told ops) with restrictions := [] } := by
    obtain ⟨hyes, hno⟩ := hshows.getState peer
    by_cases hw : Admitted (told ops)
    · rw [hyes hw] at hstate
      cases hstate
      exact hshows.agentInfo
    · rw [hno hw] at hstate
      cases hstate
  refine ⟨?_, hi⟩
  rw [hi]
  constructor
  · intro heq
    exact (congrArg AgentConnectionInfo.restrictions heq).symm
  · intro hnone
    unfold AgentConnectionInfo.ofTold
    rw [hnone]

/-- A peer. -/
def shownPeer : PeerConnectionInfo where
  peerId := "P"
  entryIp := .v4 0x01020304
  protocol := .wireguardUdp
  port := 51820

theorem shown_info_groups :
    let ops : List AgentOp := [.connectedTo shownPeer, .message .localAgentConnected,
      .message (.value (.infoGroups (some ["vpn-plus"]))), .message (.value (.restrictions none))]
    (({} : LocalAgentHandler).run ops).2.getState shownPeer =
        .connected shownPeer (some { groups := ["vpn-plus"] }) ∧
      AgentConnectionInfo.ofTold (told ops) = { groups := ["vpn-plus"] } := by
  intro ops
  have hstate : (({} : LocalAgentHandler).run ops).2.getState shownPeer =
      .connected shownPeer (some { groups := ["vpn-plus"] }) := by decide
  exact ⟨hstate, ((shown_info_iff hstate).1.mpr (by decide)).symm⟩

/-- The server says that torrents are restricted. The state shows no restriction. -/
theorem restrictions_not_shown :
    let ops : List AgentOp := [.connectedTo shownPeer, .message .localAgentConnected,
      .message (.value (.restrictions (some [.torrent "plan"])))]
    (({} : LocalAgentHandler).run ops).2.getState shownPeer =
        .connected shownPeer (some { restrictions := [] }) ∧
      (AgentConnectionInfo.ofTold (told ops)).restrictions = [.torrent "plan"] := by
  decide

end LocalAgentHandler

end Protun
