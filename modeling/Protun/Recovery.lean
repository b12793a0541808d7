import Protun.Client

/-!
# Recovering from network errors (`network_recovery_handler.rs`)

The handler keeps the system's view of the network (`networkAvailable`) and, after a socket failed
with a network error, the instant at which the client is to be told to try again, with an
exponential backoff. `onResumed` answers whether it calls `notify_network_change`.
-/

namespace Protun

/-- A second, in nanoseconds. -/
def second : Duration := 1000000000

/-- `Duration::MAX`: the seconds are a `u64`, the nanoseconds stay below a second. -/
def durationMax : Duration := UInt64.size * second - 1

/-- `INITIAL_DELAYED_NETWORK_CHANGE_DURATION`. -/
def initialDelayedNetworkChangeDuration : Duration := second

/-- `MAX_DELAYED_NETWORK_CHANGE_DURATION` (`constants.rs`), which depends on the platform. -/
def maxDelayedNetworkChangeDuration (android : Bool) : Duration :=
  if android then 30 * second else 10 * second

/-- `NetworkRecoveryHandler`. -/
structure NetworkRecoveryHandler where
  sendDelayedNetworkChangeAt : Option Duration
  delayedNetworkChangeDuration : Duration
  networkAvailable : Bool
  initialDuration : Duration
  maxDuration : Duration
  deriving DecidableEq, Repr

/-- Whether there is a network after the event. -/
def ConnectivityEvent.available : ConnectivityEvent → Bool
  | .up | .networkSwitch => true
  | .down => false

/-- The connectivity event of a message. -/
def PvpnMessage.connectivity : PvpnMessage → Option ConnectivityEvent
  | .connectivityChange event => some event
  | _ => none

/-- The network flag after the events `events`. -/
def flagAfter (flag : Bool) (events : List ConnectivityEvent) : Bool :=
  events.foldl (fun _ event => event.available) flag

@[simp] theorem flagAfter_append (flag : Bool) (l l' : List ConnectivityEvent) :
    flagAfter flag (l ++ l') = flagAfter (flagAfter flag l) l' :=
  List.foldl_append

namespace NetworkRecoveryHandler

/-- `NetworkRecoveryHandler::new`. -/
def new (android networkAvailable : Bool) : NetworkRecoveryHandler where
  sendDelayedNetworkChangeAt := none
  delayedNetworkChangeDuration := initialDelayedNetworkChangeDuration
  networkAvailable := networkAvailable
  initialDuration := initialDelayedNetworkChangeDuration
  maxDuration := maxDelayedNetworkChangeDuration android

/-- `NetworkRecoveryHandler::new_for_tests`. -/
def newForTests (networkAvailable : Bool) (initialDuration maxDuration : Duration) :
    NetworkRecoveryHandler where
  sendDelayedNetworkChangeAt := none
  delayedNetworkChangeDuration := initialDuration
  networkAvailable := networkAvailable
  initialDuration := initialDuration
  maxDuration := maxDuration

theorem new_eq_newForTests (android networkAvailable : Bool) :
    new android networkAvailable = newForTests networkAvailable
      initialDelayedNetworkChangeDuration (maxDelayedNetworkChangeDuration android) := rfl

/-- `NetworkRecoveryHandler::on_resumed`: whether it calls `notify_network_change`. -/
def onResumed (r : NetworkRecoveryHandler) (now : Duration) : Bool × NetworkRecoveryHandler :=
  match r.networkAvailable, r.sendDelayedNetworkChangeAt with
  | true, some notifyAt =>
    if notifyAt ≤ now then
      (true, { r with
        sendDelayedNetworkChangeAt := none
        delayedNetworkChangeDuration := min (r.delayedNetworkChangeDuration * 2) r.maxDuration })
    else (false, r)
  | _, _ => (false, r)

/-- Whether `wakeup_delay` reads the clock. -/
def wantsWakeup (r : NetworkRecoveryHandler) : Bool :=
  r.networkAvailable && r.sendDelayedNetworkChangeAt.isSome

/-- `NetworkRecoveryHandler::wakeup_delay`, at the instant its clock closure answers. -/
def wakeupDelay (r : NetworkRecoveryHandler) (now : Duration) : Option Duration :=
  match r.networkAvailable, r.sendDelayedNetworkChangeAt with
  | true, some notifyAt => some (if now < notifyAt then notifyAt - now else 0)
  | _, _ => none

/-- `NetworkRecoveryHandler::on_successful_socket_open`. -/
def onSuccessfulSocketOpen (r : NetworkRecoveryHandler) : NetworkRecoveryHandler :=
  { r with sendDelayedNetworkChangeAt := none }

/-- `NetworkRecoveryHandler::on_connected`. -/
def onConnected (r : NetworkRecoveryHandler) : NetworkRecoveryHandler :=
  { r with sendDelayedNetworkChangeAt := none, delayedNetworkChangeDuration := r.initialDuration }

/-- `NetworkRecoveryHandler::on_connectivity_change`. -/
def onConnectivityChange (r : NetworkRecoveryHandler) (event : ConnectivityEvent) :
    NetworkRecoveryHandler :=
  { r with
    sendDelayedNetworkChangeAt := none
    delayedNetworkChangeDuration := r.initialDuration
    networkAvailable :=
      match event with
      | .up => true
      | .networkSwitch => true
      | .down => false }

/-- `NetworkRecoveryHandler::on_stream_error`. -/
def onStreamError (r : NetworkRecoveryHandler) (kind : ErrorKind) (now : Duration) :
    NetworkRecoveryHandler :=
  if r.networkAvailable then
    match kind with
    | .networkUnreachable | .networkDown =>
      { r with sendDelayedNetworkChangeAt := some (now + r.delayedNetworkChangeDuration) }
    | _ => r
  else r

/-- When `on_resumed` notifies. -/
theorem onResumed_fires {r : NetworkRecoveryHandler} {now : Duration} :
    (r.onResumed now).1 = true ↔
      r.networkAvailable = true ∧ ∃ t, r.sendDelayedNetworkChangeAt = some t ∧ t ≤ now := by
  unfold onResumed
  cases r.networkAvailable <;> cases r.sendDelayedNetworkChangeAt <;> simp
  split <;> simp_all

theorem onResumed_of_not_fires {r : NetworkRecoveryHandler} {now : Duration}
    (h : (r.onResumed now).1 = false) : (r.onResumed now).2 = r := by
  unfold onResumed at h ⊢
  split
  · split <;> simp_all
  · rfl

theorem onResumed_of_fires {r : NetworkRecoveryHandler} {now : Duration}
    (h : (r.onResumed now).1 = true) :
    (r.onResumed now).2 = { r with
      sendDelayedNetworkChangeAt := none
      delayedNetworkChangeDuration := min (r.delayedNetworkChangeDuration * 2) r.maxDuration } := by
  unfold onResumed at h ⊢
  split
  · split <;> simp_all
  · simp_all

@[simp] theorem onConnectivityChange_networkAvailable (r : NetworkRecoveryHandler)
    (event : ConnectivityEvent) :
    (r.onConnectivityChange event).networkAvailable = event.available := by
  cases event <;> rfl

@[simp] theorem onResumed_networkAvailable (r : NetworkRecoveryHandler) (now : Duration) :
    (r.onResumed now).2.networkAvailable = r.networkAvailable := by
  unfold onResumed
  split
  · split <;> rfl
  · rfl

@[simp] theorem onStreamError_networkAvailable (r : NetworkRecoveryHandler) (kind : ErrorKind)
    (now : Duration) : (r.onStreamError kind now).networkAvailable = r.networkAvailable := by
  unfold onStreamError
  split
  · split <;> rfl
  · rfl

end NetworkRecoveryHandler

end Protun
