import Mathlib.Algebra.Group.Nat.Defs
import Protun.Data.Calls
import Protun.Data.Window
import Protun.Recovery

/-!
# Sequences of calls on the recovery handler

The connection thread calls its `NetworkRecoveryHandler` in five ways (`RecoveryOp`), in any order
and at any instants. `callsFrom apply` lists a sequence of calls, each with the handler it is made
on.

One call does three things to the handler (`apply_deadline`, `apply_delay`,
`apply_networkAvailable`): it may set the pending deadline (`scheduled`: a network error while the
network is available), clear it (`settles`), and set back or double the backoff (`resets`,
`notifies`). So after a whole sequence:

* `run_deadline`: the pending deadline is the latest one set since the last call that cleared it.
* **`notification_answers_error`**: every notification answers a network error of its own.
* **`delay_eq`**: the backoff is the initial one doubled for every notification since the last
  reset, up to the maximum. `doubling_overflows`: with a maximum above half of the greatest
  `Duration` the doubling is not representable.
* **`notifies_iff_last_error_due`**: which deadline counts when several errors arrive before it.
  `second_error_delays_recovery`: a second error puts the recovery off.
-/

namespace Protun

open Window

/-- The two kinds of errors that schedule a recovery. -/
def ErrorKind.isNetworkError : ErrorKind → Bool
  | .networkUnreachable | .networkDown => true
  | _ => false

/-- A call on the handler. The stream of a failed operation is only logged. -/
inductive RecoveryOp where
  | streamError (kind : ErrorKind) (now : Duration)
  | resumed (now : Duration)
  | socketOpen
  | connected
  | connectivityChange (event : ConnectivityEvent)
  deriving DecidableEq, Repr

/-- The calls that set the backoff back. -/
def RecoveryOp.resets : RecoveryOp → Bool
  | .connected | .connectivityChange _ => true
  | _ => false

/-- The instant of a network error. -/
def RecoveryOp.networkErrorAt : RecoveryOp → Option Duration
  | .streamError kind now => if kind.isNetworkError then some now else none
  | _ => none

namespace NetworkRecoveryHandler

/-- Make one call: whether it calls `notify_network_change`, and the handler after it. -/
def apply (r : NetworkRecoveryHandler) : RecoveryOp → Bool × NetworkRecoveryHandler
  | .streamError kind now => (false, r.onStreamError kind now)
  | .resumed now => r.onResumed now
  | .socketOpen => (false, r.onSuccessfulSocketOpen)
  | .connected => (false, r.onConnected)
  | .connectivityChange event => (false, r.onConnectivityChange event)

end NetworkRecoveryHandler

/-! ## One call -/

/-- A call and the handler it is made on. -/
abbrev RecoveryCall := Call RecoveryOp NetworkRecoveryHandler

namespace RecoveryCall

/-- The call notifies the client. -/
def notifies (c : RecoveryCall) : Bool := (c.state.apply c.op).1

/-- The deadline the call sets: a network error while the network is available. -/
def scheduled (c : RecoveryCall) : Option Duration :=
  if c.state.networkAvailable then
    c.op.networkErrorAt.map (· + c.state.delayedNetworkChangeDuration)
  else none

/-- The calls that clear the pending deadline: a successful socket open, a connected report, a
connectivity change and a notification. -/
def settles (c : RecoveryCall) : Bool :=
  match c.op with
  | .socketOpen | .connected | .connectivityChange _ => true
  | .resumed _ => c.notifies
  | .streamError _ _ => false

theorem settles_of_notifies {c : RecoveryCall} (h : c.notifies = true) : c.settles = true := by
  obtain ⟨op, r⟩ := c
  cases op <;> first | rfl | exact h

theorem settles_of_resets {c : RecoveryCall} (h : c.op.resets = true) : c.settles = true := by
  obtain ⟨op, r⟩ := c
  cases op <;> first | rfl | cases h

/-- Only `on_resumed` notifies: the network is available and the pending deadline has passed. -/
theorem notifies_iff {c : RecoveryCall} :
    c.notifies = true ↔ ∃ now t, c.op = .resumed now ∧ c.state.networkAvailable = true ∧
      c.state.sendDelayedNetworkChangeAt = some t ∧ t ≤ now := by
  obtain ⟨op, r⟩ := c
  constructor
  · intro h
    cases op with
    | resumed now =>
      obtain ⟨havail, t, ht, hle⟩ := NetworkRecoveryHandler.onResumed_fires.mp h
      exact ⟨now, t, rfl, havail, ht, hle⟩
    | _ => cases h
  · rintro ⟨now, t, rfl, havail, ht, hle⟩
    exact NetworkRecoveryHandler.onResumed_fires.mpr ⟨havail, t, ht, hle⟩

theorem scheduled_eq_some {c : RecoveryCall} {deadline : Duration}
    (h : c.scheduled = some deadline) :
    ∃ kind t, c.op = .streamError kind t ∧ kind.isNetworkError = true ∧
      c.state.networkAvailable = true ∧
      deadline = t + c.state.delayedNetworkChangeDuration := by
  obtain ⟨op, r⟩ := c
  simp only [scheduled, Option.ite_none_right_eq_some, Option.map_eq_some_iff] at h
  obtain ⟨havail, t, ht, rfl⟩ := h
  cases op with
  | streamError kind now =>
    simp only [RecoveryOp.networkErrorAt, Option.ite_none_right_eq_some] at ht
    obtain ⟨hkind, ⟨⟩⟩ := ht
    exact ⟨kind, _, rfl, hkind, havail, rfl⟩
  | _ => cases ht

end RecoveryCall

namespace NetworkRecoveryHandler

open RecoveryCall

/-- What a call does to the pending deadline. -/
theorem apply_deadline (r : NetworkRecoveryHandler) (op : RecoveryOp) :
    (r.apply op).2.sendDelayedNetworkChangeAt =
      if settles ⟨op, r⟩ then none
      else (scheduled ⟨op, r⟩).or r.sendDelayedNetworkChangeAt := by
  cases op with
  | streamError kind now =>
    simp only [apply, settles, scheduled, onStreamError, RecoveryOp.networkErrorAt]
    cases r.networkAvailable <;> cases kind <;> rfl
  | resumed now =>
    cases hfires : (r.onResumed now).1 with
    | true => simp [apply, settles, notifies, hfires, onResumed_of_fires hfires]
    | false =>
      simp [apply, settles, notifies, hfires, onResumed_of_not_fires hfires, scheduled,
        RecoveryOp.networkErrorAt]
  | socketOpen => rfl
  | connected => rfl
  | connectivityChange event => rfl

/-- What a call does to the backoff. -/
theorem apply_delay (r : NetworkRecoveryHandler) (op : RecoveryOp) :
    (r.apply op).2.delayedNetworkChangeDuration =
      if op.resets then r.initialDuration
      else if notifies ⟨op, r⟩ then min (r.delayedNetworkChangeDuration * 2) r.maxDuration
      else r.delayedNetworkChangeDuration := by
  cases op with
  | streamError kind now =>
    simp only [apply, RecoveryOp.resets, notifies, onStreamError]
    cases r.networkAvailable <;> cases kind <;> rfl
  | resumed now =>
    cases hfires : (r.onResumed now).1 with
    | true => simp [apply, RecoveryOp.resets, notifies, hfires, onResumed_of_fires hfires]
    | false => simp [apply, RecoveryOp.resets, notifies, hfires, onResumed_of_not_fires hfires]
  | socketOpen => rfl
  | connected => rfl
  | connectivityChange event => rfl

/-- No call changes the initial and the maximal backoff. -/
theorem apply_bounds (r : NetworkRecoveryHandler) (op : RecoveryOp) :
    (r.apply op).2.initialDuration = r.initialDuration ∧
      (r.apply op).2.maxDuration = r.maxDuration := by
  cases op with
  | streamError kind now =>
    simp only [apply, onStreamError]
    cases r.networkAvailable <;> cases kind <;> exact ⟨rfl, rfl⟩
  | resumed now =>
    cases hfires : (r.onResumed now).1 with
    | true => simp [apply, onResumed_of_fires hfires]
    | false => simp [apply, onResumed_of_not_fires hfires]
  | _ => exact ⟨rfl, rfl⟩

/-- A call that clears nothing leaves the network's state alone. -/
theorem apply_networkAvailable {r : NetworkRecoveryHandler} {op : RecoveryOp}
    (h : settles ⟨op, r⟩ = false) : (r.apply op).2.networkAvailable = r.networkAvailable := by
  cases op with
  | streamError kind now => exact onStreamError_networkAvailable r kind now
  | resumed now => exact onResumed_networkAvailable r now
  | _ => cases h

/-! ## Sequences of calls -/

/-- **The pending deadline** is the latest one set since the last call that cleared it. -/
theorem run_deadline {r : NetworkRecoveryHandler} (hr : r.sendDelayedNetworkChangeAt = none)
    (ops : List RecoveryOp) :
    (stateAfter apply r ops).sendDelayedNetworkChangeAt =
      latest scheduled (sinceLast settles (callsFrom apply r ops)) := by
  induction ops using List.reverseRecOn with
  | nil => simpa using hr
  | append_singleton ops op ih =>
    rw [stateAfter_snoc, apply_deadline, callsFrom_snoc, sinceLast_snoc, ih]
    by_cases hs : settles ⟨op, stateAfter apply r ops⟩ = true
    · simp [hs]
    · simp [hs]

/-! ## What a notification answers -/

/-- The call at `i` is a network error, received while the network was available, and the call at
`j` notifies the client not earlier than the backoff in force at the error allows. In between
nothing has cleared the deadline. -/
structure Answers (l : List RecoveryCall) (i j : Nat) : Prop where
  before : i < j
  due : ∃ kind t r now r', l[i]? = some ⟨.streamError kind t, r⟩ ∧ kind.isNetworkError = true ∧
    r.networkAvailable = true ∧ l[j]? = some ⟨.resumed now, r'⟩ ∧
    notifies ⟨.resumed now, r'⟩ = true ∧ t + r.delayedNetworkChangeDuration ≤ now
  undisturbed : ∀ k c, i < k → k < j → l[k]? = some c → c.settles = false

/-- The notification is the first call after the error that clears the deadline. -/
theorem Answers.first {l : List RecoveryCall} {i j : Nat} (h : Answers l i j) :
    FirstFrom settles l (i + 1) j := by
  obtain ⟨kind, t, r, now, r', -, -, -, hget, hn, -⟩ := h.due
  exact ⟨h.before, ⟨_, hget, settles_of_notifies hn⟩, h.undisturbed⟩

/-- Every notification answers an error. -/
theorem exists_answers {r : NetworkRecoveryHandler} (hr : r.sendDelayedNetworkChangeAt = none)
    {ops : List RecoveryOp} {j : Nat} {c : RecoveryCall} (hc : (callsFrom apply r ops)[j]? = some c)
    (hn : c.notifies = true) : ∃ i, Answers (callsFrom apply r ops) i j := by
  obtain ⟨now, deadline, hop, -, hdeadline, hle⟩ := notifies_iff.mp hn
  rw [state_of_callsFrom hc, run_deadline hr, ← callsFrom_take] at hdeadline
  obtain ⟨i, x, hi, hx, hquiet⟩ := exists_of_latest_sinceLast hdeadline
  obtain ⟨kind, t, hxop, hkind, havail, rfl⟩ := scheduled_eq_some hx
  obtain ⟨hij, hi⟩ : i < j ∧ (callsFrom apply r ops)[i]? = some x := by
    simpa [List.getElem?_take, Option.ite_none_right_eq_some] using hi
  refine ⟨i, hij, ⟨kind, t, x.state, now, c.state, ?_, hkind, havail, ?_, ?_, hle⟩, ?_⟩
  · rw [hi, ← hxop]
  · rw [hc, ← hop]
  · rw [← hop]
    exact hn
  · intro k y hik hkj hy
    exact hquiet k y hik (by rw [List.getElem?_take_of_lt hkj, hy])

/-- **Every notification answers an error of its own.** For every handler, every sequence of calls
and all instants: when `on_resumed` notifies, the network is available, and there is an earlier
network error, received while the network was available, whose backoff has passed and after which
no socket was opened, no connection reported, no connectivity changed and nothing notified. No
error is answered twice, and nothing is notified while the network is down. -/
theorem notification_answers_error (networkAvailable : Bool)
    (initialDuration maxDuration : Duration) (ops : List RecoveryOp) :
    let l := callsFrom apply (newForTests networkAvailable initialDuration maxDuration) ops
    (∀ (j : Nat) (c : RecoveryCall), l[j]? = some c → c.notifies = true →
      c.state.networkAvailable = true ∧ ∃ i, Answers l i j) ∧
    (∀ i j j', Answers l i j → Answers l i j' → j = j') ∧
    ∀ (j : Nat) (c : RecoveryCall), l[j]? = some c → c.state.networkAvailable = false →
      c.notifies = false := by
  refine ⟨fun j c hc hn => ?_, fun i j j' h h' => h.first.unique h'.first, fun j c _ hdown => ?_⟩
  · obtain ⟨-, -, -, havail, -⟩ := notifies_iff.mp hn
    exact ⟨havail, exists_answers rfl hc hn⟩
  · by_contra hn
    obtain ⟨-, -, -, havail, -⟩ := notifies_iff.mp (Bool.not_eq_false _ ▸ hn)
    rw [hdown] at havail
    cases havail

/-! ## The backoff -/

/-- The notifications since the backoff was last set back. -/
def notifications (r : NetworkRecoveryHandler) (ops : List RecoveryOp) : Nat :=
  (sinceLast (·.op.resets) (callsFrom apply r ops)).countP notifies

theorem run_bounds (r : NetworkRecoveryHandler) (ops : List RecoveryOp) :
    (stateAfter apply r ops).initialDuration = r.initialDuration ∧
      (stateAfter apply r ops).maxDuration = r.maxDuration := by
  induction ops using List.reverseRecOn with
  | nil => exact ⟨rfl, rfl⟩
  | append_singleton ops op ih =>
    rw [stateAfter_snoc]
    exact ⟨(apply_bounds _ op).1.trans ih.1, (apply_bounds _ op).2.trans ih.2⟩

theorem min_double (x m : Nat) : min (min x m * 2) m = min (x * 2) m := by omega

theorem run_delay {r : NetworkRecoveryHandler}
    (hstart : r.delayedNetworkChangeDuration = r.initialDuration)
    (hle : r.initialDuration ≤ r.maxDuration) (ops : List RecoveryOp) :
    (stateAfter apply r ops).delayedNetworkChangeDuration =
      min (r.initialDuration * 2 ^ r.notifications ops) r.maxDuration := by
  induction ops using List.reverseRecOn with
  | nil => simp [notifications, hstart, hle]
  | append_singleton ops op ih =>
    obtain ⟨hinitial, hmax⟩ := run_bounds r ops
    rw [stateAfter_snoc, apply_delay, hinitial, hmax, ih]
    unfold notifications
    rw [callsFrom_snoc, sinceLast_snoc]
    by_cases hreset : op.resets = true
    · simp [hreset, hle]
    by_cases hn : notifies ⟨op, stateAfter apply r ops⟩ = true
    · -- doubling the capped value and capping again is capping the doubled value
      simp only [hreset, hn, if_true, Bool.false_eq_true, if_false, List.countP_append,
        List.countP_singleton, Nat.pow_succ, ← Nat.mul_assoc]
      exact min_double _ _
    · simp [hreset, hn]

/-- **The backoff.** After any sequence of calls it is the initial backoff doubled once for every
notification since the last reset, up to the maximum. A call that neither resets nor notifies does
not change it. If twice the maximum is a `Duration`, as it is for the handlers of `new`, no doubling
overflows. -/
theorem delay_eq (networkAvailable : Bool) {initialDuration maxDuration : Duration}
    (hle : initialDuration ≤ maxDuration) (ops : List RecoveryOp) :
    let r := newForTests networkAvailable initialDuration maxDuration
    (stateAfter apply r ops).delayedNetworkChangeDuration =
        min (initialDuration * 2 ^ r.notifications ops) maxDuration ∧
      (∀ op, op.resets = false → notifies ⟨op, stateAfter apply r ops⟩ = false →
        ((stateAfter apply r ops).apply op).2.delayedNetworkChangeDuration =
          (stateAfter apply r ops).delayedNetworkChangeDuration) ∧
      (maxDuration * 2 ≤ durationMax → ∀ c ∈ callsFrom apply r ops, notifies c = true →
        c.state.delayedNetworkChangeDuration * 2 ≤ durationMax) ∧
      ∀ android, maxDelayedNetworkChangeDuration android * 2 ≤ durationMax := by
  intro r
  refine ⟨run_delay rfl hle ops, fun op hreset hn => ?_, fun hmax c hc _ => ?_, by decide⟩
  · rw [apply_delay]
    simp [hreset, hn]
  · obtain ⟨j, hj⟩ := List.mem_iff_getElem?.mp hc
    have hdelay := run_delay (r := r) rfl hle (ops.take j)
    have hcap : c.state.delayedNetworkChangeDuration ≤ maxDuration := by
      rw [state_of_callsFrom hj, hdelay]
      exact min_le_right _ _
    exact (Nat.mul_le_mul_right 2 hcap).trans hmax

/-- Two notifications of a handler of `new`. -/
theorem delay_after_two : 1 * second ≤ 10 * second ∧
    (stateAfter apply (newForTests true (1 * second) (10 * second))
      [.streamError .networkDown 0, .resumed (1 * second), .streamError .networkDown (1 * second),
        .resumed (3 * second)]).delayedNetworkChangeDuration = 4 * second :=
  ⟨by decide, (delay_eq true (by decide) _).1⟩

/-- With a maximum of 2^63 seconds the doubling overflows at the first notification. -/
theorem doubling_overflows :
    let half := UInt64.size / 2 * second
    let r := newForTests true half half
    r.initialDuration ≤ r.maxDuration ∧ r.maxDuration ≤ durationMax ∧
      ∃ c ∈ callsFrom apply r [.streamError .networkDown 0, .resumed half],
        notifies c = true ∧ durationMax < c.state.delayedNetworkChangeDuration * 2 := by
  decide

/-! ## Several errors before the deadline -/

/-- While nothing clears the deadline, the network stays available, the backoff stays as it is, and
every network error moves the deadline. -/
theorem run_undisturbed {r : NetworkRecoveryHandler} {ops : List RecoveryOp}
    (havail : r.networkAvailable = true) (hquiet : ∀ c ∈ callsFrom apply r ops, settles c = false) :
    (stateAfter apply r ops).networkAvailable = true ∧
      (stateAfter apply r ops).delayedNetworkChangeDuration = r.delayedNetworkChangeDuration ∧
      (stateAfter apply r ops).sendDelayedNetworkChangeAt =
        ((latest RecoveryOp.networkErrorAt ops).map (· + r.delayedNetworkChangeDuration)).or
          r.sendDelayedNetworkChangeAt := by
  induction ops using List.reverseRecOn with
  | nil => exact ⟨havail, rfl, rfl⟩
  | append_singleton ops op ih =>
    rw [callsFrom_snoc] at hquiet
    obtain ⟨hav, hdelay, hdeadline⟩ := ih fun c hc => hquiet c (by simp [hc])
    have hop : settles ⟨op, stateAfter apply r ops⟩ = false := hquiet _ (by simp)
    have hreset : op.resets = false := by
      by_contra h
      rw [settles_of_resets (Bool.not_eq_false _ ▸ h)] at hop
      cases hop
    have hn : notifies ⟨op, stateAfter apply r ops⟩ = false := by
      by_contra h
      rw [settles_of_notifies (Bool.not_eq_false _ ▸ h)] at hop
      cases hop
    rw [stateAfter_snoc, apply_networkAvailable hop, apply_delay, apply_deadline, latest_snoc]
    refine ⟨hav, by simp [hreset, hn, hdelay], ?_⟩
    simp only [hop, scheduled, hav, hdelay, hdeadline, if_true, Bool.false_eq_true, if_false]
    cases op.networkErrorAt <;> rfl

/-- **The last error counts.** A network error arrives at `t` while the network is available, and
nothing clears the deadline afterwards. Then, whether a recovery was pending at `t` or not,
`on_resumed(now)` notifies iff the backoff has passed since the last network error. -/
theorem notifies_iff_last_error_due {r : NetworkRecoveryHandler} {kind : ErrorKind} {t : Duration}
    {ops : List RecoveryOp} (hkind : kind.isNetworkError = true)
    (havail : r.networkAvailable = true)
    (hquiet : ∀ c ∈ callsFrom apply (r.apply (.streamError kind t)).2 ops, settles c = false)
    (now : Duration) :
    ((stateAfter apply r (.streamError kind t :: ops)).onResumed now).1 = true ↔
      (latest RecoveryOp.networkErrorAt ops).getD t + r.delayedNetworkChangeDuration ≤ now := by
  have hfirst : (r.apply (.streamError kind t)).2 =
      { r with sendDelayedNetworkChangeAt := some (t + r.delayedNetworkChangeDuration) } := by
    simp only [apply, onStreamError, havail, if_true]
    cases kind <;> first | rfl | cases hkind
  obtain ⟨hav, -, hdeadline⟩ := run_undisturbed (by rw [hfirst]; exact havail) hquiet
  rw [onResumed_fires, show stateAfter apply r (.streamError kind t :: ops) =
    stateAfter apply (r.apply (.streamError kind t)).2 ops from rfl, hav, hdeadline, hfirst]
  cases latest RecoveryOp.networkErrorAt ops <;> simp

/-- A second error half a second after the first: one second after the second it notifies. -/
theorem notifies_after_second_error :
    ((stateAfter apply (new false true)
      [.streamError .networkDown 0, .streamError .networkDown 500000000]).onResumed
        1500000000).1 = true := by
  have hiff := @notifies_iff_last_error_due (new false true) .networkDown 0
    [.streamError .networkDown 500000000] rfl rfl (by decide) 1500000000
  exact hiff.mpr (by decide)

/-- The first error is a second old, no recovery was pending when it arrived, nothing has cleared
the deadline, and the backoff is a second. The second error has put the recovery off. -/
theorem second_error_delays_recovery :
    let r := new false true
    let later := RecoveryOp.streamError .networkDown 900000000
    r.networkAvailable = true ∧ r.sendDelayedNetworkChangeAt = none ∧
      (∀ c ∈ callsFrom apply (r.apply (.streamError .networkDown 0)).2 [later],
        settles c = false) ∧
      0 + r.delayedNetworkChangeDuration ≤ second ∧
      ((stateAfter apply r [.streamError .networkDown 0, later]).onResumed second).1 = false := by
  decide

end NetworkRecoveryHandler

end Protun
