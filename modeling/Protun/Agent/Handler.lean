import Protun.Client

/-!
# The local-agent handler (`local_agent_handler.rs`)

`LocalAgentHandler` folds the messages of the local agent into the state shown to the user
(`getState`) and into events. The connection thread calls it in two ways only: `handleMessage`
for every message it pulls, and `onConnectedToPeer` each time it computes a state for a connected
tunnel. `AgentOp` names the two, `apply` runs one and `run` a sequence, collecting the events.

The statistics accumulator is a function of the six kinds of counters (`StatKind`); the Rust
struct has one field and one `accumulate` function for each, generated by a macro. The estimate of
saved data (`updateLocalAgentStatsWithEstimates`) is `u64` arithmetic that wraps, as in a release
build.
-/

namespace Protun

/-! ## The statistics accumulator -/

/-- The counters of one statistics request. -/
inductive StatKind where
  | bytesReceived
  | bytesSent
  | maliciousBlocked
  | adsBlocked
  | trackersBlocked
  | adultContentBlocked
  deriving DecidableEq, Repr

namespace StatKind

/-- The six kinds, in the order the accumulator's fields are declared. -/
def all : List StatKind :=
  [bytesReceived, bytesSent, maliciousBlocked, adsBlocked, trackersBlocked, adultContentBlocked]

theorem mem_all (k : StatKind) : k ∈ all := by cases k <;> decide

end StatKind

/-- `LocalAgentStatsAccumulator`: for each kind, the value received since the last reset. -/
abbrev StatsAccumulator := StatKind → Option (Option UInt64)

/-- `AVG_AD_SIZE_BYTES`. -/
def avgAdSizeBytes : UInt64 := 200 * 1024

/-- `AVG_TRACKER_SIZE_BYTES`. -/
def avgTrackerSizeBytes : UInt64 := 50 * 1024

/-- `AVG_MALICIOUS_SIZE_BYTES`. -/
def avgMaliciousSizeBytes : UInt64 := 750 * 1024

/-- `AVG_ADULT_CONTENT_SIZE_BYTES`. -/
def avgAdultContentSizeBytes : UInt64 := 1454 * 1024

/-- One `if let Some(n) = counter { saved += n * size }`. -/
def addEstimate (counter : Option UInt64) (size saved : UInt64) : UInt64 :=
  match counter with
  | some n => saved + n * size
  | none => saved

/-- `update_local_agent_stats_with_estimates`. -/
def updateLocalAgentStatsWithEstimates (s : LocalAgentStats) : LocalAgentStats :=
  let saved := addEstimate s.maliciousBlocked avgMaliciousSizeBytes 0
  let saved := addEstimate s.adsBlocked avgAdSizeBytes saved
  let saved := addEstimate s.trackersBlocked avgTrackerSizeBytes saved
  let saved := addEstimate s.adultContentBlocked avgAdultContentSizeBytes saved
  { s with dataSaved := some saved }

/-- The event for six values. -/
def statsEvent (v : StatKind → Option UInt64) : Event :=
  .localAgentStats <| updateLocalAgentStatsWithEstimates {
    bytesReceived := v .bytesReceived
    bytesSent := v .bytesSent
    maliciousBlocked := v .maliciousBlocked
    adsBlocked := v .adsBlocked
    trackersBlocked := v .trackersBlocked
    adultContentBlocked := v .adultContentBlocked
    dataSaved := none }

namespace StatsAccumulator

/-- `Default::default()`, and what `reset` leaves. -/
def empty : StatsAccumulator := fun _ => none

/-- `emit_event_when_full`: the event and a reset once all six are there. -/
def emitEventWhenFull (acc : StatsAccumulator) : Option Event × StatsAccumulator :=
  match acc .bytesReceived, acc .bytesSent, acc .maliciousBlocked, acc .adsBlocked,
    acc .trackersBlocked, acc .adultContentBlocked with
  | some bytesReceived, some bytesSent, some maliciousBlocked, some adsBlocked,
    some trackersBlocked, some adultContentBlocked =>
    (some <| .localAgentStats <| updateLocalAgentStatsWithEstimates
      { bytesReceived, bytesSent, maliciousBlocked, adsBlocked, trackersBlocked,
        adultContentBlocked, dataSaved := none }, empty)
  | _, _, _, _, _, _ => (none, acc)

/-- `create_accumulate_fn!(kind)`. -/
def accumulate (kind : StatKind) (val : Option UInt64) (acc : StatsAccumulator) :
    Option Event × StatsAccumulator :=
  emitEventWhenFull fun k => if k = kind then some val else acc k

end StatsAccumulator

/-! ## The handler -/

/-- `LocalAgentHandler`. -/
structure LocalAgentHandler where
  isConnected : Bool := false
  lastPeer : Option PeerConnectionInfo := none
  agentInfo : AgentConnectionInfo := {}
  establishedTs : Option Nat := none
  exitLabel : Option String := none
  jails : List WaitJailReason := []
  restrictions : List Restriction := []
  localAgentStats : StatsAccumulator := StatsAccumulator.empty

/-- The reason shown to the user for a jail, from the `match` of `handle_jails`. -/
def Jail.waitReason : Jail → WaitJailReason
  | .internallyHandled jail =>
    match jail with
    | .systemError message => .internal message
    | .expiredCertificate message => .internal message
    | .revokedCertificate message => .internal message
    | .keyAlreadyUsed message => .internal message
    | .invalidCertificateSignature message => .internal message
  | .toHandle jail =>
    match jail with
    | .requireRecent2FA message => .need2FA message
    | .expired2FA message => .need2FA message
    | .require2FA message => .need2FA message
    | .waitingClientChallengeReply message => .waitingClientChallengeReply message
    | .policyViolation1 message => .lowPlan message
    | .policyViolation2 message => .pendingInvoice message
    | .badUserBehavior message => .badUserBehavior message
    | .disabledUser message => .disabledUser message
    | .sessionOverLimit message => .sessionOverLimit message
    | .freeSessionOverLimit message => .sessionOverLimit message
    | .basicSessionOverLimit message => .sessionOverLimit message
    | .plusSessionOverLimit message => .sessionOverLimit message
    | .visionarySessionOverLimit message => .sessionOverLimit message
    | .proSessionOverLimit message => .sessionOverLimit message
    | .guestSession message => .internal message
    | .restrictedServer message => .internal message
    | .noCertificateProvided message => .internal message
    | .sessionInstallationInProgress message => .internal message
    | .unknown code message => .other code message

/-- `policy_refused`. -/
def policyRefused (setting : LocalAgentSettingType) : Option Event :=
  some (.error (.localAgentSettingPolicyRefused setting))

/-- The event of a server error, from the inner `match` of `handle_error`. -/
def LocalAgentServerError.event : LocalAgentServerError → Option Event
  | .netshieldLevelPolicyRefused => policyRefused .netshieldLevel
  | .bouncingPolicyRefused => policyRefused .bouncing
  | .portFwPolicyRefused => policyRefused .portForwarding
  | .splitTcpPolicyRefused => policyRefused .splitTcp
  | .safeModePolicyRefused => policyRefused .safeMode
  | .randomNatPolicyRefused => policyRefused .randomNat
  -- the other server errors are only logged
  | _ => none

namespace LocalAgentHandler

/-- `LocalAgentHandler::get_wait_reason`. -/
def getWaitReason (h : LocalAgentHandler) : Option AgentConnectionWaitReason :=
  if h.agentInfo.settings.softJail = some true then some .softJailed
  else if ¬ h.jails.isEmpty then some (.hardJailed h.jails)
  else none

/-- `LocalAgentHandler::get_state`. -/
def getState (h : LocalAgentHandler) (peer : PeerConnectionInfo) : ConnectionState :=
  match h.getWaitReason with
  | some waitReason => .connectingToLocalAgent peer (some waitReason)
  | none =>
    if h.isConnected then .connected peer (some h.agentInfo)
    else .connectingToLocalAgent peer none

/-- What `on_connected_to_peer` forgets when the peer is another one. The restrictions are not
among it. -/
def forgetPeer (h : LocalAgentHandler) : LocalAgentHandler :=
  { h with isConnected := false, establishedTs := none, exitLabel := none, agentInfo := {},
           jails := [] }

/-- `LocalAgentHandler::on_connected_to_peer`. -/
def onConnectedToPeer (h : LocalAgentHandler) (peer : PeerConnectionInfo) : LocalAgentHandler :=
  let h :=
    match h.lastPeer with
    | some lastPeer => if peer ≠ lastPeer then h.forgetPeer else h
    | none => h
  { h with lastPeer := some peer, localAgentStats := StatsAccumulator.empty }

/-- A value that goes to the accumulator. -/
def accumulate (h : LocalAgentHandler) (kind : StatKind) (val : Option UInt64) :
    Option Event × LocalAgentHandler :=
  let r := h.localAgentStats.accumulate kind val
  (r.1, { h with localAgentStats := r.2 })

/-- `LocalAgentHandler::handle_jails`. -/
def handleJails (h : LocalAgentHandler) (jails : Option Jails) : Option Event × LocalAgentHandler :=
  (none, { h with jails :=
    match jails with
    | some jails => jails.items.map Jail.waitReason
    | none => [] })

/-- `LocalAgentHandler::handle_value`. -/
def handleValue (h : LocalAgentHandler) : LocalAgentValue → Option Event × LocalAgentHandler
  | .infoEstablished timestamp => (none, { h with establishedTs := timestamp })
  | .infoGroups value => (none, { h with agentInfo.groups := value.getD [] })
  | .infoPlatform => (none, h)
  | .infoRemote => (none, h)
  | .infoRemoteReal address => (none, { h with agentInfo.userIspIp := address })
  | .infoRemoteRealLocationCode code => (none, { h with agentInfo.userIspCountryCode := code })
  | .infoExitIpv4 address => (none, { h with agentInfo.serverExitV4 := address.map .v4 })
  | .infoExitIpv6 address => (none, { h with agentInfo.serverExitV6 := address.map .v6 })
  | .restrictions restrictions =>
    (none, { h with restrictions :=
      match restrictions with
      | some restrictions => restrictions.map ClientRestriction.toApi
      | none => [] })
  | .settingsCircumventionRouting value =>
    (none, { h with agentInfo.settings.circumventionRouting := value })
  | .settingsLabel value => (none, { h with exitLabel := value })
  | .settingsNetshieldLevel value =>
    (none, { h with agentInfo.settings.netshieldLevel := value.map ClientNetshieldLevel.toApi })
  | .settingsPortForwarding value => (none, { h with agentInfo.settings.portForwarding := value })
  | .settingsRandomNat value => (none, { h with agentInfo.settings.randomNat := value })
  | .settingsSoftjail value => (none, { h with agentInfo.settings.softJail := value })
  | .settingsSplitTcp value => (none, { h with agentInfo.settings.splitTcp := value })
  | .statsBytesReceived val => h.accumulate .bytesReceived val
  | .statsBytesSent val => h.accumulate .bytesSent val
  | .statsNetshieldBlockCountMalicious val => h.accumulate .maliciousBlocked val
  | .statsNetshieldBlockCountAds val => h.accumulate .adsBlocked val
  | .statsNetshieldBlockCountTracking val => h.accumulate .trackersBlocked val
  | .statsNetshieldBlockCountAdult val => h.accumulate .adultContentBlocked val
  | .jails jails => h.handleJails jails
  | .unrecognized => (none, h)

/-- `LocalAgentHandler::handle_error`. -/
def handleError : LocalAgentError → Option Event
  | .muonAuth => some (.error .apiSessionExpired)
  | .muonErrorOnCertRefresh => some (.error .certificateRefreshFatalError)
  | .tooManyTriesOnCertRefresh => some (.error .certificateRefreshFatalError)
  | .serverError e => e.event

/-- `LocalAgentHandler::handle_message`. -/
def handleMessage (h : LocalAgentHandler) : LocalAgentMessage → Option Event × LocalAgentHandler
  | .value value => h.handleValue value
  | .error error => (handleError error, h)
  | .muonForkSelectorNeeded => (some (.error .apiSessionExpired), h)
  | .localAgentConnected => (none, { h with isConnected := true })

/-- `LocalAgentHandler::local_agent_selectors_to_watch`. -/
def localAgentSelectorsToWatch : List LocalAgentSelector :=
  [.infoEstablished, .infoGroups, .infoRemote, .restrictions, .settingsCircumventionRouting,
    .settingsLabel, .settingsNetshieldLevel, .settingsPortForwarding, .settingsRandomNat,
    .settingsSoftjail, .settingsSplitTcp, .jails]

end LocalAgentHandler

/-! ## Sequences of calls -/

/-- A call the connection thread makes on its handler. -/
inductive AgentOp where
  | message (m : LocalAgentMessage)
  | connectedTo (peer : PeerConnectionInfo)
  deriving DecidableEq

namespace LocalAgentHandler

/-- Run one call: the event it returns, if any, and the handler after it. -/
def apply (h : LocalAgentHandler) : AgentOp → Option Event × LocalAgentHandler
  | .message m => h.handleMessage m
  | .connectedTo peer => (none, h.onConnectedToPeer peer)

/-- Run a sequence of calls: the events in order, and the handler after them. -/
def run (h : LocalAgentHandler) : List AgentOp → List Event × LocalAgentHandler
  | [] => ([], h)
  | op :: ops =>
    let r := h.apply op
    let rest := run r.2 ops
    (r.1.toList ++ rest.1, rest.2)

@[simp] theorem run_nil (h : LocalAgentHandler) : h.run [] = ([], h) := rfl

theorem run_cons (h : LocalAgentHandler) (op : AgentOp) (ops : List AgentOp) :
    h.run (op :: ops) =
      ((h.apply op).1.toList ++ ((h.apply op).2.run ops).1, ((h.apply op).2.run ops).2) := rfl

theorem run_append (h : LocalAgentHandler) (ops₁ ops₂ : List AgentOp) :
    h.run (ops₁ ++ ops₂) =
      ((h.run ops₁).1 ++ ((h.run ops₁).2.run ops₂).1, ((h.run ops₁).2.run ops₂).2) := by
  induction ops₁ generalizing h with
  | nil => simp
  | cons op ops₁ ih =>
    rw [List.cons_append, run_cons, run_cons, ih]
    simp [List.append_assoc]

end LocalAgentHandler

end Protun
