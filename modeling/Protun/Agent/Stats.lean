import Protun.Agent.Calls
import Protun.Data.Calls
import Protun.Data.Window

/-!
# The statistics events of the local agent

The six counters of a statistics request come one by one, in any order, possibly more than once and
mixed with other messages. `callsFrom apply {} ops` lists any sequence of calls on the handler; the
window of a position is what came since the last event or reset (`window`).

* `held_step`: one call, seen from the window. The accumulator holds the latest value of every kind
  in it, and it is never complete.
* **`stats_events`**: an event is returned exactly when a statistics message completes the window;
  its counters are the latest values in it; no value counts for two events.
* **`dataSaved_exact_iff`**: the estimate of the saved data is the exact sum iff the sum is a `u64`;
  otherwise it wraps, or the process aborts where overflow is checked (`checkedEstimates`).
  `dataSaved_wraps`: a counter that is too big.
-/

namespace Protun

open Window StatsAccumulator

/-! ## Events and windows -/

/-- The counters of a statistics event. -/
def Event.stats : Event → Option LocalAgentStats
  | .localAgentStats stats => some stats
  | _ => none

/-- The counter of a kind. -/
def LocalAgentStats.counter (s : LocalAgentStats) : StatKind → Option UInt64
  | .bytesReceived => s.bytesReceived
  | .bytesSent => s.bytesSent
  | .maliciousBlocked => s.maliciousBlocked
  | .adsBlocked => s.adsBlocked
  | .trackersBlocked => s.trackersBlocked
  | .adultContentBlocked => s.adultContentBlocked

/-- The value of the given kind that a call carries; a value may be `None`. -/
def AgentOp.statOf (kind : StatKind) (op : AgentOp) : Option (Option UInt64) :=
  match op.stat with
  | some (k, val) => if kind = k then some val else none
  | none => none

/-- A call and the handler it is made on. -/
abbrev AgentCall := Call AgentOp LocalAgentHandler

namespace AgentCall

/-- The statistics the call returns. -/
def stats (c : AgentCall) : Option LocalAgentStats := (c.state.apply c.op).1.bind Event.stats

/-- After these the statistics start anew: an event or a reset. -/
def ends (c : AgentCall) : Bool := c.stats.isSome || c.op.isReset

/-- The latest value of every kind. -/
def held (w : List AgentCall) : StatsAccumulator := fun kind => latest (·.op.statOf kind) w

/-- All six kinds have been received. -/
def Complete (w : List AgentCall) : Prop := ∀ kind, held w kind ≠ none

/-- What came since the last event or reset before the position. -/
def window (l : List AgentCall) (j : Nat) : List AgentCall := sinceLast ends (l.take j)

theorem not_complete_nil : ¬ Complete [] := fun h => h .bytesSent rfl

/-- One more call without a statistics value. -/
theorem held_snoc_of_not_stat {c : AgentCall} (hc : c.op.stat = none) (w : List AgentCall) :
    held (w ++ [c]) = held w := by
  funext kind
  simp [held, AgentOp.statOf, hc]

/-- One more value. -/
theorem held_snoc_of_stat {c : AgentCall} {k : StatKind} {val : Option UInt64}
    (hc : c.op.stat = some (k, val)) (w : List AgentCall) :
    held (w ++ [c]) = fun kind => if kind = k then some val else held w kind := by
  funext kind
  by_cases hk : kind = k
  · simp [held, AgentOp.statOf, hc, hk]
  · simp [held, AgentOp.statOf, hc, hk]

theorem bind_stats (event : Option Event) :
    event.bind Event.stats =
      (event.toList.filter Event.isLocalAgentStats).head?.bind Event.stats := by
  cases event with
  | none => rfl
  | some event => cases event <;> rfl

/-- The event of a call comes from the accumulator. -/
theorem stats_eq (c : AgentCall) :
    c.stats = (c.state.localAgentStats.statsStep c.op).1.bind Event.stats := by
  rw [stats, bind_stats, (apply_stats c.state c.op).1, Option.head?_toList]

end AgentCall

/-! ## One call -/

/-- One more value: the event if it was the last one missing. -/
theorem accumulate_cases (acc : StatsAccumulator) (kind : StatKind) (val : Option UInt64) :
    (∃ v : StatKind → Option UInt64,
      (fun k => if k = kind then some val else acc k) = (fun k => some (v k)) ∧
        acc.accumulate kind val = (some (statsEvent v), empty)) ∨
      ((∃ k, (if k = kind then some val else acc k) = none) ∧
        acc.accumulate kind val = (none, fun k => if k = kind then some val else acc k)) := by
  unfold StatsAccumulator.accumulate
  by_cases hmissing : ∃ k, (if k = kind then some val else acc k) = none
  · obtain ⟨k, hk⟩ := hmissing
    exact .inr ⟨⟨k, hk⟩, emitEventWhenFull_of_missing hk⟩
  · have hvalues : ∀ k, ∃ v, (if k = kind then some val else acc k) = some v := fun k =>
      Option.ne_none_iff_exists'.mp fun hk => hmissing ⟨k, hk⟩
    choose v hv using hvalues
    refine .inl ⟨v, funext hv, ?_⟩
    rw [funext hv, emitEventWhenFull_full]

theorem counter_statsEvent (v : StatKind → Option UInt64) :
    ∃ s, (statsEvent v).stats = some s ∧ ∀ k, s.counter k = v k :=
  ⟨_, rfl, fun k => by cases k <;> rfl⟩

namespace AgentCall

/-- The accumulator of the handler holds the latest values of the window, and some kind is
missing. -/
structure Holds (h : LocalAgentHandler) (w : List AgentCall) : Prop where
  values : h.localAgentStats = held w
  missing : ¬ Complete w

/-- What a call does, seen from the window: it returns an event iff it carries a value that
completes the window, and then the counters are the latest values. Afterwards the accumulator holds
the latest values of the new window. -/
structure Accounted (c : AgentCall) (w : List AgentCall) : Prop where
  event : c.stats.isSome = true ↔ c.op.stat ≠ none ∧ Complete (w ++ [c])
  counters : ∀ s, c.stats = some s → ∀ kind, held (w ++ [c]) kind = some (s.counter kind)
  holds : Holds (c.state.apply c.op).2 (if c.ends then [] else w ++ [c])

/-- A call that returns no event. -/
theorem accounted_of_none {c : AgentCall} {w : List AgentCall} (hnone : c.stats = none)
    (hevent : ¬ (c.op.stat ≠ none ∧ Complete (w ++ [c])))
    (hholds : Holds (c.state.apply c.op).2 (if c.op.isReset then [] else w ++ [c])) :
    Accounted c w where
  event := by simp [hnone, hevent]
  counters := by simp [hnone]
  holds := by
    unfold ends
    rwa [hnone, Option.isSome_none, Bool.false_or]

theorem accounted_of_not_stat {c : AgentCall} {w : List AgentCall} (h : Holds c.state w)
    (hop : c.op.stat = none) : Accounted c w := by
  have hacc := (apply_stats c.state c.op).2
  rw [h.values, statsStep, hop] at hacc
  have hnone : c.stats = none := by
    rw [stats_eq, statsStep, hop]
    rfl
  refine accounted_of_none hnone (by simp [hop]) ?_
  by_cases hr : c.op.isReset = true
  · rw [if_pos hr]
    exact ⟨hacc.trans (if_pos hr), not_complete_nil⟩
  · rw [if_neg hr]
    have hheld := held_snoc_of_not_stat hop w
    refine ⟨(hacc.trans (if_neg hr)).trans hheld.symm, fun hall => h.missing ?_⟩
    unfold Complete at hall
    rwa [hheld] at hall

theorem accounted_of_stat {c : AgentCall} {w : List AgentCall} (h : Holds c.state w) {k : StatKind}
    {val : Option UInt64} (hop : c.op.stat = some (k, val)) : Accounted c w := by
  have hacc := (apply_stats c.state c.op).2
  have hstats := stats_eq c
  have hheld := held_snoc_of_stat hop w
  simp only [h.values, statsStep, hop] at hacc hstats
  rcases accumulate_cases (held w) k val with ⟨v, hfull, heq⟩ | ⟨⟨k', hk'⟩, heq⟩
  · obtain ⟨s, hs, hcounters⟩ := counter_statsEvent v
    rw [heq] at hacc hstats
    rw [← hheld] at hfull
    have hsome : c.stats = some s := hstats.trans hs
    refine ⟨by simp [hsome, hop, Complete, hfull], fun s' hs' kind => ?_, ?_⟩
    · obtain rfl : s = s' := Option.some.inj (hsome.symm.trans hs')
      rw [hfull, hcounters]
    · rw [ends, hsome]
      exact ⟨hacc, not_complete_nil⟩
  · rw [heq] at hacc hstats
    have hmissing : ¬ Complete (w ++ [c]) := by
      intro hall
      apply hall k'
      rw [hheld]
      exact hk'
    refine accounted_of_none hstats (fun hall => hmissing hall.2) ?_
    rw [AgentOp.not_isReset_of_stat hop]
    exact ⟨hacc.trans hheld.symm, hmissing⟩

/-- **One call, seen from the window.** -/
theorem held_step {c : AgentCall} {w : List AgentCall} (h : Holds c.state w) : Accounted c w := by
  cases hop : c.op.stat with
  | none => exact accounted_of_not_stat h hop
  | some stat => exact accounted_of_stat h hop

end AgentCall

/-! ## Sequences of calls -/

namespace LocalAgentHandler

open AgentCall

/-- Along any sequence of calls the accumulator holds what came since the last event or reset. -/
theorem stateAfter_holds (ops : List AgentOp) :
    Holds (stateAfter apply {} ops) (sinceLast ends (callsFrom apply {} ops)) := by
  induction ops using List.reverseRecOn with
  | nil => exact ⟨rfl, not_complete_nil⟩
  | append_singleton ops op ih =>
    rw [stateAfter_snoc, callsFrom_snoc, sinceLast_snoc]
    exact (held_step (c := ⟨op, stateAfter apply {} ops⟩) ih).holds

/-- The value received at `i` counts for the event returned at `j`: the event is the first end of a
window from `i` on. -/
structure CountsFor (l : List AgentCall) (i j : Nat) : Prop where
  value : ∃ c, l[i]? = some c ∧ c.op.stat ≠ none
  event : ∃ c s, l[j]? = some c ∧ stats c = some s
  window : FirstFrom ends l i j

/-- **The statistics events.** For every sequence of calls: an event is returned at exactly the
statistics messages that complete the six kinds since the last event or reset; its counters are the
latest values since then, `None` included; and no value counts for two events. -/
theorem stats_events (ops : List AgentOp) :
    let l := callsFrom apply {} ops
    (∀ (j : Nat) (c : AgentCall), l[j]? = some c →
      (c.stats.isSome = true ↔
        c.op.stat ≠ none ∧ ¬ Complete (window l j) ∧ Complete (window l j ++ [c])) ∧
      ∀ s, c.stats = some s → ∀ kind, held (window l j ++ [c]) kind = some (s.counter kind)) ∧
    ∀ i j j', CountsFor l i j → CountsFor l i j' → j = j' := by
  refine ⟨fun j c hc => ?_, fun i j j' h h' => h.window.unique h'.window⟩
  have hholds : Holds c.state (window (callsFrom apply {} ops) j) := by
    rw [state_of_callsFrom hc, window, callsFrom_take]
    exact stateAfter_holds (ops.take j)
  have hstep := held_step hholds
  refine ⟨?_, hstep.counters⟩
  rw [hstep.event]
  simp [hholds.missing]

end LocalAgentHandler

/-! ## The estimate of the saved data -/

/-- The exact number of bytes saved by one counter. -/
def estimate (counter : Option UInt64) (size : Nat) : Nat :=
  match counter with
  | some n => n.toNat * size
  | none => 0

/-- The exact sum, over the counters that are present. -/
def exactSaved (v : StatKind → Option UInt64) : Nat :=
  estimate (v .maliciousBlocked) (750 * 1024) + estimate (v .adsBlocked) (200 * 1024) +
    estimate (v .trackersBlocked) (50 * 1024) + estimate (v .adultContentBlocked) (1454 * 1024)

/-- The `u64` with the given value: the result of an operation where overflow is checked, as in a
debug build. -/
def checked (n : Nat) : Option UInt64 := if n < UInt64.size then some (UInt64.ofNat n) else none

/-- `addEstimate` where overflow is checked. -/
def checkedAddEstimate (counter : Option UInt64) (size saved : UInt64) : Option UInt64 :=
  match counter with
  | some n => do
    let product ← checked (n.toNat * size.toNat)
    checked (saved.toNat + product.toNat)
  | none => some saved

/-- The sum of `update_local_agent_stats_with_estimates` where overflow is checked: `none` if some
multiplication or addition overflows. -/
def checkedEstimates (v : StatKind → Option UInt64) : Option UInt64 := do
  let saved ← checkedAddEstimate (v .maliciousBlocked) avgMaliciousSizeBytes 0
  let saved ← checkedAddEstimate (v .adsBlocked) avgAdSizeBytes saved
  let saved ← checkedAddEstimate (v .trackersBlocked) avgTrackerSizeBytes saved
  checkedAddEstimate (v .adultContentBlocked) avgAdultContentSizeBytes saved

/-- Without checks the sum is taken modulo 2^64. -/
theorem addEstimate_toNat (counter : Option UInt64) (size saved : UInt64) :
    (addEstimate counter size saved).toNat =
      (saved.toNat + estimate counter size.toNat) % UInt64.size := by
  cases counter with
  | none => exact (Nat.mod_eq_of_lt saved.toNat_lt).symm
  | some n =>
    simp only [addEstimate, estimate, UInt64.toNat_add, UInt64.toNat_mul]
    exact Nat.add_mod_mod _ _ _

theorem checked_eq_some_iff {n : Nat} {r : UInt64} : checked n = some r ↔ r.toNat = n := by
  unfold checked
  rw [Option.ite_none_right_eq_some, Option.some.injEq]
  constructor
  · rintro ⟨hlt, rfl⟩
    exact UInt64.toNat_ofNat_of_lt' hlt
  · rintro rfl
    exact ⟨r.toNat_lt, UInt64.ofNat_toNat⟩

/-- An intermediate value of a sum that is a `u64` is one too. -/
theorem exists_toNat_add_iff {m n : Nat} {r : UInt64} :
    (∃ a : UInt64, a.toNat = m ∧ r.toNat = a.toNat + n) ↔ r.toNat = m + n := by
  constructor
  · rintro ⟨a, rfl, hr⟩
    exact hr
  · intro hr
    have hlt : m < UInt64.size := lt_of_le_of_lt (Nat.le_add_right m n) (hr ▸ r.toNat_lt)
    exact ⟨UInt64.ofNat m, UInt64.toNat_ofNat_of_lt' hlt, by rw [UInt64.toNat_ofNat_of_lt' hlt, hr]⟩

/-- With checks the sum is exact. -/
theorem checkedAddEstimate_eq_some_iff {counter : Option UInt64} {size saved r : UInt64} :
    checkedAddEstimate counter size saved = some r ↔
      r.toNat = saved.toNat + estimate counter size.toNat := by
  cases counter with
  | none => simp [checkedAddEstimate, estimate, eq_comm, ← UInt64.toNat_inj]
  | some n =>
    simp only [checkedAddEstimate, estimate, Option.bind_eq_bind, Option.bind_eq_some_iff,
      checked_eq_some_iff, Nat.add_comm saved.toNat]
    exact exists_toNat_add_iff

theorem checkedEstimates_eq_some_iff {v : StatKind → Option UInt64} {r : UInt64} :
    checkedEstimates v = some r ↔ r.toNat = exactSaved v := by
  simp only [checkedEstimates, Option.bind_eq_bind, Option.bind_eq_some_iff,
    checkedAddEstimate_eq_some_iff, exists_toNat_add_iff, Nat.add_assoc]
  simp [exactSaved, avgMaliciousSizeBytes, avgAdSizeBytes, avgTrackerSizeBytes,
    avgAdultContentSizeBytes, Nat.add_assoc]

/-- Without checks the event's estimate is the sum modulo 2^64. -/
theorem statsEvent_dataSaved (v : StatKind → Option UInt64) :
    ∃ s, statsEvent v = .localAgentStats s ∧
      s.dataSaved.map UInt64.toNat = some (exactSaved v % UInt64.size) := by
  refine ⟨_, rfl, ?_⟩
  simp [updateLocalAgentStatsWithEstimates, addEstimate_toNat, exactSaved, avgMaliciousSizeBytes,
    avgAdSizeBytes, avgTrackerSizeBytes, avgAdultContentSizeBytes]

/-- **The estimate of the saved data.** For all values of the counters, the event's `data_saved` is
the exact sum iff the sum is a `u64`, and this is also when no multiplication and no addition
overflows. -/
theorem dataSaved_exact_iff (v : StatKind → Option UInt64) :
    ∃ s, emitEventWhenFull (fun k => some (v k)) = (some (.localAgentStats s), empty) ∧
      (s.dataSaved.map UInt64.toNat = some (exactSaved v) ↔ exactSaved v < UInt64.size) ∧
      ((checkedEstimates v).isSome = true ↔ exactSaved v < UInt64.size) := by
  obtain ⟨s, hs, hsaved⟩ := statsEvent_dataSaved v
  refine ⟨s, by rw [emitEventWhenFull_full, hs], ?_, ?_⟩
  · rw [hsaved, Option.some.injEq]
    exact Nat.mod_eq_iff_lt (by decide)
  · rw [Option.isSome_iff_exists]
    constructor
    · rintro ⟨r, hr⟩
      rw [← checkedEstimates_eq_some_iff.mp hr]
      exact r.toNat_lt
    · intro hlt
      exact ⟨UInt64.ofNat (exactSaved v),
        checkedEstimates_eq_some_iff.mpr (UInt64.toNat_ofNat_of_lt' hlt)⟩

/-- The server reports 2^64 - 1 blocked malicious requests and nothing else. The event says that
2^64 - 768000 bytes were saved. -/
theorem dataSaved_wraps :
    let blocked : UInt64 := 18446744073709551615
    let v : StatKind → Option UInt64 := fun k =>
      if k = .maliciousBlocked then some blocked else none
    (({} : LocalAgentHandler).run [.message (.value (.statsBytesReceived none)),
        .message (.value (.statsBytesSent none)),
        .message (.value (.statsNetshieldBlockCountMalicious (some blocked))),
        .message (.value (.statsNetshieldBlockCountAds none)),
        .message (.value (.statsNetshieldBlockCountTracking none)),
        .message (.value (.statsNetshieldBlockCountAdult none))]).1 = [statsEvent v] ∧
      (statsEvent v).stats.bind LocalAgentStats.dataSaved = some 18446744073708783616 ∧
      exactSaved v = 18446744073709551615 * 768000 ∧ checkedEstimates v = none := by
  decide

end Protun
