import Mathlib.Data.List.Nodup
import Protun.Agent.Handler

/-!
# What a sequence of calls leaves in the local-agent handler

Two questions about sequences of `handle_message` and `on_connected_to_peer`.

* Statistics. The accumulator is emptied by every `on_connected_to_peer`, whatever the peer
  (`statsStep`). For a sequence that carries each of the six kinds once,
  `statsRun_eq_singleton_iff`: the event is emitted iff no such call stands between the first and
  the last of the six.
* Memory. `on_connected_to_peer` forgets what it was told when the peer is not the one of the last
  call (`Remembers`). `shown` is the part that is forgotten.
-/

namespace Protun

/-! ## Statistics -/

/-- The statistics value a message carries. -/
def LocalAgentMessage.stat : LocalAgentMessage → Option (StatKind × Option UInt64)
  | .value (.statsBytesReceived v) => some (.bytesReceived, v)
  | .value (.statsBytesSent v) => some (.bytesSent, v)
  | .value (.statsNetshieldBlockCountMalicious v) => some (.maliciousBlocked, v)
  | .value (.statsNetshieldBlockCountAds v) => some (.adsBlocked, v)
  | .value (.statsNetshieldBlockCountTracking v) => some (.trackersBlocked, v)
  | .value (.statsNetshieldBlockCountAdult v) => some (.adultContentBlocked, v)
  | _ => none

/-- A statistics event of the local agent. -/
def Event.isLocalAgentStats : Event → Bool
  | .localAgentStats _ => true
  | _ => false

/-- An event of the local agent. -/
def Event.isOfAgent : Event → Bool
  | .localAgentStats _ | .error _ => true
  | _ => false

namespace AgentOp

/-- The statistics value a call carries. -/
def stat : AgentOp → Option (StatKind × Option UInt64)
  | message m => m.stat
  | connectedTo _ => none

/-- The calls that empty the accumulator. -/
def isReset : AgentOp → Bool
  | message _ => false
  | connectedTo _ => true

theorem not_isReset_of_stat {op : AgentOp} {kv : StatKind × Option UInt64}
    (h : op.stat = some kv) : op.isReset = false := by
  cases op with
  | message m => rfl
  | connectedTo peer => cases h

end AgentOp

/-- The statistics values of a sequence of calls, in order. -/
def statsOf (ops : List AgentOp) : List (StatKind × Option UInt64) := ops.filterMap AgentOp.stat

namespace StatsAccumulator

/-- The effect of one call on the accumulator. -/
def statsStep (acc : StatsAccumulator) (op : AgentOp) : Option Event × StatsAccumulator :=
  match op.stat with
  | some (kind, val) => acc.accumulate kind val
  | none => (none, if op.isReset then empty else acc)

/-- The effect of a sequence of calls. -/
def statsRun (acc : StatsAccumulator) : List AgentOp → List Event × StatsAccumulator
  | [] => ([], acc)
  | op :: ops =>
    let r := acc.statsStep op
    (r.1.toList ++ (statsRun r.2 ops).1, (statsRun r.2 ops).2)

/-- The values `v` of the kinds `ks`. -/
def holding (v : StatKind → Option UInt64) (ks : List StatKind) : StatsAccumulator :=
  fun k => if k ∈ ks then some (v k) else none

theorem holding_nil (v : StatKind → Option UInt64) : holding v [] = empty := by
  funext k
  simp [holding, empty]

theorem emitEventWhenFull_full (v : StatKind → Option UInt64) :
    emitEventWhenFull (fun k => some (v k)) = (some (statsEvent v), empty) := rfl

theorem emitEventWhenFull_of_missing {acc : StatsAccumulator} {k : StatKind} (hk : acc k = none) :
    emitEventWhenFull acc = (none, acc) := by
  unfold emitEventWhenFull
  cases k <;> rw [hk] <;> (repeat' split) <;> simp_all

/-- One more value: the event if it was the last one missing. -/
theorem accumulate_holding (v : StatKind → Option UInt64) (ks : List StatKind) (k : StatKind) :
    accumulate k (v k) (holding v ks) =
      if StatKind.all ⊆ k :: ks then (some (statsEvent v), empty)
      else (none, holding v (k :: ks)) := by
  have hset : (fun k' => if k' = k then some (v k) else holding v ks k') = holding v (k :: ks) := by
    funext k'
    by_cases h : k' = k
    · subst h; simp [holding]
    · simp [holding, h]
  unfold accumulate
  rw [hset]
  split
  · rename_i hall
    have hfull : holding v (k :: ks) = fun k' => some (v k') := by
      funext k'
      exact if_pos (hall (StatKind.mem_all k'))
    rw [hfull, emitEventWhenFull_full]
  · rename_i hall
    obtain ⟨k', hk'⟩ := not_forall.mp hall
    have hk' : k' ∉ k :: ks := fun h => hk' fun _ => h
    exact emitEventWhenFull_of_missing (k := k') (if_neg hk')

end StatsAccumulator

open StatsAccumulator

theorem handleMessage_of_stat {m : LocalAgentMessage} {kind : StatKind} {val : Option UInt64}
    (hm : m.stat = some (kind, val)) (h : LocalAgentHandler) :
    h.handleMessage m = h.accumulate kind val := by
  cases m with
  | value value => cases value <;> first | (cases hm; rfl) | cases hm
  | _ => cases hm

theorem handleMessage_of_not_stat {m : LocalAgentMessage} (hm : m.stat = none)
    (h : LocalAgentHandler) :
    (h.handleMessage m).1.toList.filter Event.isLocalAgentStats = [] ∧
      (h.handleMessage m).2.localAgentStats = h.localAgentStats := by
  cases m with
  | value value => cases value <;> first | exact ⟨rfl, rfl⟩ | cases hm
  | error e =>
    refine ⟨?_, rfl⟩
    cases e with
    | serverError e => cases e <;> rfl
    | _ => rfl
  | muonForkSelectorNeeded => exact ⟨rfl, rfl⟩
  | localAgentConnected => exact ⟨rfl, rfl⟩

theorem accumulate_event (acc : StatsAccumulator) (kind : StatKind) (val : Option UInt64) :
    (acc.accumulate kind val).1.toList.filter Event.isLocalAgentStats =
      (acc.accumulate kind val).1.toList := by
  unfold StatsAccumulator.accumulate emitEventWhenFull
  split <;> rfl

/-- The handler has no other events than the local agent's. -/
theorem handleMessage_isOfAgent {h : LocalAgentHandler} {m : LocalAgentMessage} {e : Event}
    (he : (h.handleMessage m).1 = some e) : e.isOfAgent = true := by
  cases hm : m.stat with
  | some stat =>
    rw [handleMessage_of_stat hm] at he
    unfold LocalAgentHandler.accumulate StatsAccumulator.accumulate emitEventWhenFull at he
    dsimp only at he
    split at he <;> cases he
    rfl
  | none =>
    cases m with
    | value value => cases value <;> first | cases he | cases hm
    | error error =>
      cases error with
      | serverError error => cases error <;> cases he <;> rfl
      | _ => cases he; rfl
    | muonForkSelectorNeeded => cases he; rfl
    | localAgentConnected => cases he

/-- One call: the statistics events it returns and the accumulator it leaves. -/
theorem apply_stats (h : LocalAgentHandler) (op : AgentOp) :
    (h.apply op).1.toList.filter Event.isLocalAgentStats =
        (h.localAgentStats.statsStep op).1.toList ∧
      (h.apply op).2.localAgentStats = (h.localAgentStats.statsStep op).2 := by
  cases op with
  | connectedTo peer => exact ⟨rfl, rfl⟩
  | message m =>
    cases hm : m.stat with
    | none =>
      obtain ⟨h1, h2⟩ := handleMessage_of_not_stat hm h
      simp only [LocalAgentHandler.apply, statsStep, AgentOp.stat, hm, AgentOp.isReset]
      exact ⟨h1, h2⟩
    | some kv =>
      obtain ⟨kind, val⟩ := kv
      simp only [LocalAgentHandler.apply, statsStep, AgentOp.stat, hm, handleMessage_of_stat hm]
      exact ⟨accumulate_event _ _ _, rfl⟩

/-- The statistics events of a sequence of calls come from the accumulator alone. -/
theorem run_stats (h : LocalAgentHandler) (ops : List AgentOp) :
    (h.run ops).1.filter Event.isLocalAgentStats = (h.localAgentStats.statsRun ops).1 := by
  induction ops generalizing h with
  | nil => rfl
  | cons op ops ih =>
    obtain ⟨h1, h2⟩ := apply_stats h op
    rw [LocalAgentHandler.run_cons, List.filter_append, h1, ih, h2]
    rfl

/-! ### Six values -/

theorem statsOf_append (ops₁ ops₂ : List AgentOp) :
    statsOf (ops₁ ++ ops₂) = statsOf ops₁ ++ statsOf ops₂ := List.filterMap_append

theorem statsOf_cons_some {op : AgentOp} {kv : StatKind × Option UInt64} (h : op.stat = some kv)
    (ops : List AgentOp) : statsOf (op :: ops) = kv :: statsOf ops := List.filterMap_cons_some h

theorem statsOf_cons_none {op : AgentOp} (h : op.stat = none) (ops : List AgentOp) :
    statsOf (op :: ops) = statsOf ops := List.filterMap_cons_none h

theorem statsRun_append (acc : StatsAccumulator) (ops₁ ops₂ : List AgentOp) :
    acc.statsRun (ops₁ ++ ops₂) =
      ((acc.statsRun ops₁).1 ++ ((acc.statsRun ops₁).2.statsRun ops₂).1,
        ((acc.statsRun ops₁).2.statsRun ops₂).2) := by
  induction ops₁ generalizing acc with
  | nil => rfl
  | cons op ops₁ ih =>
    simp only [List.cons_append, statsRun, ih]
    simp [List.append_assoc]

/-- Calls without statistics values leave an empty accumulator empty. -/
theorem statsRun_of_no_stats {ops : List AgentOp} (h : statsOf ops = []) :
    empty.statsRun ops = ([], empty) := by
  induction ops with
  | nil => rfl
  | cons op ops ih =>
    cases hop : op.stat with
    | some kv => rw [statsOf_cons_some hop] at h; cases h
    | none =>
      rw [statsOf_cons_none hop] at h
      simp only [statsRun, statsStep, hop, ite_self, Option.toList_none, List.nil_append]
      exact ih h

/-- The kinds of statistics values of a sequence of calls. -/
def kindsOf (ops : List AgentOp) : List StatKind := (statsOf ops).map Prod.fst

theorem kindsOf_append (ops₁ ops₂ : List AgentOp) :
    kindsOf (ops₁ ++ ops₂) = kindsOf ops₁ ++ kindsOf ops₂ := by
  unfold kindsOf
  rw [statsOf_append, List.map_append]

theorem kindsOf_cons_none {op : AgentOp} (h : op.stat = none) (ops : List AgentOp) :
    kindsOf (op :: ops) = kindsOf ops := by
  unfold kindsOf
  rw [statsOf_cons_none h]

theorem kindsOf_cons_some {op : AgentOp} {kv : StatKind × Option UInt64} (h : op.stat = some kv)
    (ops : List AgentOp) : kindsOf (op :: ops) = kv.1 :: kindsOf ops := by
  unfold kindsOf
  rw [statsOf_cons_some h, List.map_cons]

theorem kindsOf_eq_nil {ops : List AgentOp} : kindsOf ops = [] ↔ statsOf ops = [] :=
  List.map_eq_nil_iff

theorem statsStep_of_not_stat {op : AgentOp} (h : op.stat = none) (hr : op.isReset = false)
    (acc : StatsAccumulator) : acc.statsStep op = (none, acc) := by
  simp [statsStep, h, hr]

theorem statsStep_of_reset {op : AgentOp} (hr : op.isReset = true) (acc : StatsAccumulator) :
    acc.statsStep op = (none, empty) := by
  cases op with
  | message m => cases hr
  | connectedTo peer => rfl

theorem statsStep_holding {v : StatKind → Option UInt64} {op : AgentOp} {k : StatKind}
    {val : Option UInt64} (h : op.stat = some (k, val)) (hv : val = v k) (ks : List StatKind) :
    (holding v ks).statsStep op =
      if StatKind.all ⊆ k :: ks then (some (statsEvent v), empty)
      else (none, holding v (k :: ks)) := by
  simp only [statsStep, h, hv]
  exact accumulate_holding v ks k

/-- Without a reset, distinct kinds that complete the six give one event. -/
theorem statsRun_complete {v : StatKind → Option UInt64} {b : List AgentOp} {ks : List StatKind}
    (hreset : ∀ op ∈ b, op.isReset = false) (hv : ∀ kv ∈ statsOf b, kv.2 = v kv.1)
    (hnodup : (ks ++ kindsOf b).Nodup) (hall : StatKind.all ⊆ ks ++ kindsOf b)
    (hmissing : ¬ StatKind.all ⊆ ks) : (holding v ks).statsRun b = ([statsEvent v], empty) := by
  induction b generalizing ks with
  | nil => exact absurd (by simpa [kindsOf, statsOf] using hall) hmissing
  | cons op b ih =>
    have hreset' : ∀ op ∈ b, op.isReset = false := fun o ho => hreset o (List.mem_cons_of_mem _ ho)
    cases hop : op.stat with
    | none =>
      rw [statsOf_cons_none hop] at hv
      rw [kindsOf_cons_none hop] at hnodup hall
      simp only [statsRun, statsStep_of_not_stat hop (hreset op List.mem_cons_self)]
      exact ih hreset' hv hnodup hall hmissing
    | some kv =>
      obtain ⟨k, val⟩ := kv
      rw [statsOf_cons_some hop] at hv
      rw [kindsOf_cons_some hop] at hnodup hall
      have hval : val = v k := hv (k, val) List.mem_cons_self
      have hperm : (ks ++ k :: kindsOf b).Perm (k :: ks ++ kindsOf b) := List.perm_middle
      have hnodup' := hperm.nodup_iff.mp hnodup
      simp only [statsRun, statsStep_holding hop hval]
      by_cases hfull : StatKind.all ⊆ k :: ks
      · -- the sixth kind: what is left of `b` carries no value
        have hrest : statsOf b = [] := by
          rw [← kindsOf_eq_nil, List.eq_nil_iff_forall_not_mem]
          intro k' hk'
          exact (List.disjoint_of_nodup_append hnodup') (hfull (StatKind.mem_all k')) hk'
        rw [if_pos hfull, statsRun_of_no_stats hrest]
        rfl
      · rw [if_neg hfull, ih hreset' (fun kv h => hv kv (List.mem_cons_of_mem _ h)) hnodup'
          (fun k' h => hperm.subset (hall h)) hfull]
        rfl

/-- The six kinds without a reset between them; at the start of `ops` the kinds `ks` count as
well. -/
def HasBatch (ks : List StatKind) (ops : List AgentOp) : Prop :=
  (∃ b c, ops = b ++ c ∧ (∀ op ∈ b, op.isReset = false) ∧ StatKind.all ⊆ ks ++ kindsOf b) ∨
    ∃ a b c, ops = a ++ b ++ c ∧ (∀ op ∈ b, op.isReset = false) ∧ StatKind.all ⊆ kindsOf b

/-- One call earlier: what it carries counts. -/
theorem HasBatch.cons {ks ks' : List StatKind} {op : AgentOp} {ops : List AgentOp}
    (hr : op.isReset = false) (hks : ks' ⊆ ks ++ kindsOf [op]) (h : HasBatch ks' ops) :
    HasBatch ks (op :: ops) := by
  rcases h with ⟨b, c, rfl, hb, hall⟩ | ⟨a, b, c, rfl, hb, hall⟩
  · refine .inl ⟨op :: b, c, rfl, List.forall_mem_cons.mpr ⟨hr, hb⟩, fun k hk => ?_⟩
    rw [show op :: b = [op] ++ b from rfl, kindsOf_append, ← List.append_assoc]
    rcases List.mem_append.mp (hall hk) with hk | hk
    · exact List.mem_append_left _ (hks hk)
    · exact List.mem_append_right _ hk
  · exact .inr ⟨op :: a, b, c, rfl, hb, hall⟩

/-- One reset earlier. -/
theorem HasBatch.cons_reset {ks : List StatKind} {op : AgentOp} {ops : List AgentOp}
    (h : HasBatch [] ops) : HasBatch ks (op :: ops) := by
  rcases h with ⟨b, c, rfl, hb, hall⟩ | ⟨a, b, c, rfl, hb, hall⟩
  · exact .inr ⟨[op], b, c, rfl, hb, hall⟩
  · exact .inr ⟨op :: a, b, c, rfl, hb, hall⟩

/-- An event needs the six kinds without a reset between them. -/
theorem hasBatch_of_event {v : StatKind → Option UInt64} {ops : List AgentOp} {ks : List StatKind}
    (hv : ∀ kv ∈ statsOf ops, kv.2 = v kv.1) (hev : ((holding v ks).statsRun ops).1 ≠ []) :
    HasBatch ks ops := by
  induction ops generalizing ks with
  | nil => exact absurd rfl hev
  | cons op ops ih =>
    cases hop : op.stat with
    | none =>
      rw [statsOf_cons_none hop] at hv
      cases hr : op.isReset with
      | true =>
        simp only [statsRun, statsStep_of_reset hr, Option.toList_none, List.nil_append,
          ← holding_nil v] at hev
        exact (ih hv hev).cons_reset
      | false =>
        simp only [statsRun, statsStep_of_not_stat hop hr, Option.toList_none, List.nil_append]
          at hev
        exact (ih hv hev).cons hr (List.subset_append_left ks _)
    | some kv =>
      obtain ⟨k, val⟩ := kv
      have hr : op.isReset = false := AgentOp.not_isReset_of_stat hop
      have hkind : kindsOf [op] = [k] := kindsOf_cons_some hop []
      rw [statsOf_cons_some hop] at hv
      have hval : val = v k := hv (k, val) List.mem_cons_self
      have hks : k :: ks ⊆ ks ++ kindsOf [op] := by
        rw [hkind]
        exact (List.perm_append_singleton k ks).symm.subset
      by_cases hfull : StatKind.all ⊆ k :: ks
      · exact .inl ⟨[op], ops, rfl, by simpa using hr, fun k' h => hks (hfull h)⟩
      · simp only [statsRun, statsStep_holding hop hval, if_neg hfull, Option.toList_none,
          List.nil_append] at hev
        exact (ih (fun kv h => hv kv (List.mem_cons_of_mem _ h)) hev).cons hr hks

/-- The statistics values stand together: no `on_connected_to_peer` between the first and the
last. -/
def OneBatch (ops : List AgentOp) : Prop :=
  ∃ a b c, ops = a ++ b ++ c ∧ statsOf a = [] ∧ statsOf c = [] ∧ ∀ op ∈ b, op.isReset = false

/-- Where no kind occurs twice, an event comes from values that stand together. -/
theorem oneBatch_of_event {v : StatKind → Option UInt64} {ops : List AgentOp}
    (hv : ∀ kv ∈ statsOf ops, kv.2 = v kv.1) (hnodup : (kindsOf ops).Nodup)
    (hev : (empty.statsRun ops).1 ≠ []) : OneBatch ops := by
  rw [← holding_nil v] at hev
  have hbatch : ∃ a b c, ops = a ++ b ++ c ∧ (∀ op ∈ b, op.isReset = false) ∧
      StatKind.all ⊆ kindsOf b := by
    rcases hasBatch_of_event hv hev with ⟨b, c, h, hb, hall⟩ | h
    · exact ⟨[], b, c, h, hb, hall⟩
    · exact h
  obtain ⟨a, b, c, rfl, hb, hall⟩ := hbatch
  -- all six kinds are in `b`, and no kind occurs twice
  rw [kindsOf_append, kindsOf_append] at hnodup
  refine ⟨a, b, c, rfl, ?_, ?_, hb⟩
  · rw [← kindsOf_eq_nil, List.eq_nil_iff_forall_not_mem]
    intro k hk
    exact (List.disjoint_of_nodup_append (List.Nodup.of_append_left hnodup)) hk
      (hall (StatKind.mem_all k))
  · rw [← kindsOf_eq_nil, List.eq_nil_iff_forall_not_mem]
    intro k hk
    exact (List.disjoint_of_nodup_append hnodup)
      (List.mem_append_right _ (hall (StatKind.mem_all k))) hk

/-- Six values that stand together make one event. -/
theorem statsRun_of_oneBatch {v : StatKind → Option UInt64} {ops : List AgentOp}
    (hv : ∀ kv ∈ statsOf ops, kv.2 = v kv.1) (hkinds : (kindsOf ops).Perm StatKind.all)
    (hone : OneBatch ops) : (empty.statsRun ops).1 = [statsEvent v] := by
  obtain ⟨a, b, c, rfl, ha, hc, hb⟩ := hone
  have hk : kindsOf (a ++ b ++ c) = kindsOf b := by
    rw [kindsOf_append, kindsOf_append, kindsOf_eq_nil.mpr ha, kindsOf_eq_nil.mpr hc]
    simp
  rw [hk] at hkinds
  have hvb : ∀ kv ∈ statsOf b, kv.2 = v kv.1 := fun kv h => hv kv (by
    rw [statsOf_append, statsOf_append]
    exact List.mem_append_left _ (List.mem_append_right _ h))
  have hrun : (holding v []).statsRun b = ([statsEvent v], empty) :=
    statsRun_complete hb hvb (hkinds.nodup_iff.mpr (by decide)) hkinds.symm.subset (by decide)
  rw [holding_nil] at hrun
  rw [statsRun_append, statsRun_append, statsRun_of_no_stats ha, hrun, statsRun_of_no_stats hc]
  rfl

/-- **Six values, one event.** A sequence of calls that carries each kind once emits exactly the
event of the six values iff they stand together. -/
theorem statsRun_eq_singleton_iff {v : StatKind → Option UInt64} {ops : List AgentOp}
    (hsix : (statsOf ops).Perm (StatKind.all.map fun k => (k, v k))) :
    (empty.statsRun ops).1 = [statsEvent v] ↔ OneBatch ops := by
  have hv : ∀ kv ∈ statsOf ops, kv.2 = v kv.1 := by
    intro kv hkv
    obtain ⟨k, -, rfl⟩ := List.mem_map.mp (hsix.subset hkv)
    rfl
  have hkinds : (kindsOf ops).Perm StatKind.all := by
    have h := hsix.map Prod.fst
    rwa [List.map_map, show Prod.fst ∘ (fun k => (k, v k)) = id from rfl, List.map_id] at h
  constructor
  · intro hev
    exact oneBatch_of_event hv (hkinds.nodup_iff.mpr (by decide)) (by rw [hev]; simp)
  · exact statsRun_of_oneBatch hv hkinds

/-! ## Memory -/

namespace LocalAgentHandler

/-- The part of the handler that is forgotten when the peer changes; `get_state` reads nothing
else. -/
def shown (h : LocalAgentHandler) :
    Bool × Option Nat × Option String × AgentConnectionInfo × List WaitJailReason :=
  (h.isConnected, h.establishedTs, h.exitLabel, h.agentInfo, h.jails)

/-- `on_connected_to_peer(peer)` will not forget anything. -/
def Remembers (h : LocalAgentHandler) (peer : PeerConnectionInfo) : Prop :=
  h.lastPeer = none ∨ h.lastPeer = some peer

instance (h : LocalAgentHandler) (peer : PeerConnectionInfo) : Decidable (h.Remembers peer) :=
  inferInstanceAs (Decidable (_ ∨ _))

theorem onConnectedToPeer_shown (h : LocalAgentHandler) (peer : PeerConnectionInfo) :
    (h.onConnectedToPeer peer).shown =
      if h.Remembers peer then h.shown else ({} : LocalAgentHandler).shown := by
  by_cases hr : h.Remembers peer
  · rw [if_pos hr]
    unfold onConnectedToPeer
    rcases hr with hr | hr <;> simp [hr, shown]
  · rw [if_neg hr]
    unfold onConnectedToPeer
    cases hl : h.lastPeer with
    | none => exact absurd (.inl hl) hr
    | some lastPeer =>
      have hp : peer ≠ lastPeer := fun e => hr (.inr (e ▸ hl))
      simp [hp, shown, forgetPeer]

theorem getState_congr {h h' : LocalAgentHandler} (hs : h.shown = h'.shown)
    (peer : PeerConnectionInfo) : h.getState peer = h'.getState peer := by
  simp only [shown, Prod.mk.injEq] at hs
  obtain ⟨h1, -, -, h4, h5⟩ := hs
  unfold getState getWaitReason
  rw [h1, h4, h5]

/-- A connected agent is never reported as still connecting without a reason. -/
theorem getState_ne_of_isConnected {h : LocalAgentHandler} (hc : h.isConnected = true)
    (peer : PeerConnectionInfo) : h.getState peer ≠ .connectingToLocalAgent peer none := by
  unfold getState
  cases h.getWaitReason with
  | some waitReason => simp
  | none => simp [hc]

theorem handleMessage_lastPeer (h : LocalAgentHandler) (m : LocalAgentMessage) :
    (h.handleMessage m).2.lastPeer = h.lastPeer := by
  cases m with
  | value value => cases value <;> rfl
  | _ => rfl

theorem handleMessage_isConnected (h : LocalAgentHandler) (m : LocalAgentMessage)
    (hc : h.isConnected = true) : (h.handleMessage m).2.isConnected = true := by
  cases m with
  | value value => cases value <;> exact hc
  | localAgentConnected => rfl
  | _ => exact hc

/-- What every message keeps, a sequence of messages keeps. -/
theorem run_messages_keeps {P : LocalAgentHandler → Prop}
    (hstep : ∀ h m, P h → P (handleMessage h m).2) {h : LocalAgentHandler} (hP : P h)
    {ops : List AgentOp} (hops : ∀ op ∈ ops, op.isReset = false) : P (h.run ops).2 := by
  induction ops generalizing h with
  | nil => exact hP
  | cons op ops ih =>
    cases op with
    | connectedTo peer => exact absurd (hops _ List.mem_cons_self) (by simp [AgentOp.isReset])
    | message m =>
      rw [run_cons]
      exact ih (hstep h m hP) fun op h => hops op (List.mem_cons_of_mem _ h)

theorem run_messages_lastPeer (h : LocalAgentHandler) {ops : List AgentOp}
    (hops : ∀ op ∈ ops, op.isReset = false) : (h.run ops).2.lastPeer = h.lastPeer :=
  run_messages_keeps (P := fun h' => h'.lastPeer = h.lastPeer)
    (fun h' m hP => (handleMessage_lastPeer h' m).trans hP) rfl hops

theorem run_messages_isConnected (h : LocalAgentHandler) {ops : List AgentOp}
    (hops : ∀ op ∈ ops, op.isReset = false) (hc : h.isConnected = true) :
    (h.run ops).2.isConnected = true :=
  run_messages_keeps (P := fun h' => h'.isConnected = true) handleMessage_isConnected hc hops

/-- Messages do not change what the handler remembers. -/
theorem remembers_run_messages {h : LocalAgentHandler} {ops : List AgentOp}
    (hops : ∀ op ∈ ops, op.isReset = false) (peer : PeerConnectionInfo) :
    (h.run ops).2.Remembers peer ↔ h.Remembers peer := by
  unfold Remembers
  rw [run_messages_lastPeer h hops]

/-- After `LocalAgentConnected` the state of `peer` has a reason to be still connecting, or is not
connecting, iff the handler remembered that peer. -/
theorem getState_after_connected_iff (h : LocalAgentHandler) {ops : List AgentOp}
    (hops : ∀ op ∈ ops, op.isReset = false) (peer : PeerConnectionInfo) :
    ((h.run (.message .localAgentConnected :: ops)).2.onConnectedToPeer peer).getState peer ≠
      .connectingToLocalAgent peer none ↔ h.Remembers peer := by
  have hmsgs : ∀ op ∈ AgentOp.message .localAgentConnected :: ops, op.isReset = false :=
    List.forall_mem_cons.mpr ⟨rfl, hops⟩
  have hshown := onConnectedToPeer_shown (h.run (.message .localAgentConnected :: ops)).2 peer
  by_cases hr : h.Remembers peer
  · rw [if_pos ((remembers_run_messages hmsgs peer).mpr hr)] at hshown
    have hc : (h.run (.message .localAgentConnected :: ops)).2.isConnected = true := by
      rw [run_cons]
      exact run_messages_isConnected _ hops rfl
    rw [getState_congr hshown]
    exact ⟨fun _ => hr, fun _ => getState_ne_of_isConnected hc peer⟩
  · rw [if_neg fun h' => hr ((remembers_run_messages hmsgs peer).mp h')] at hshown
    rw [getState_congr hshown]
    exact ⟨fun h' => absurd rfl h', fun h' => absurd h' hr⟩

end LocalAgentHandler

/-- The handler shows the effect of the calls `ops`: it is as if they had just been made, whatever
was there before. -/
def Reflects (ops : List AgentOp) (h : LocalAgentHandler) : Prop :=
  ∃ base : LocalAgentHandler, h.shown = (base.run ops).2.shown

/-- The messages say nothing that the initial handler would not show: forgetting them cannot be
told from having received them. -/
def Trivial (ops : List AgentOp) : Prop := Reflects ops {}

/-- **What was told is shown for the peer** iff the handler remembers that peer or nothing was told
that could be missed. -/
theorem reflects_onConnectedToPeer_iff (h : LocalAgentHandler) {ops : List AgentOp}
    (hops : ∀ op ∈ ops, op.isReset = false) (peer : PeerConnectionInfo) :
    Reflects ops ((h.run ops).2.onConnectedToPeer peer) ↔ h.Remembers peer ∨ Trivial ops := by
  have hlast := LocalAgentHandler.remembers_run_messages (h := h) hops peer
  unfold Reflects
  rw [LocalAgentHandler.onConnectedToPeer_shown]
  by_cases hr : h.Remembers peer
  · rw [if_pos (hlast.mpr hr)]
    exact ⟨fun _ => .inl hr, fun _ => ⟨h, rfl⟩⟩
  · rw [if_neg fun h' => hr (hlast.mp h')]
    exact ⟨.inr, fun h' => h'.resolve_left hr⟩

end Protun
