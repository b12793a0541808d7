import Protun.Connection.Run

/-!
# How long the loop sleeps (`wakeup_delay`, `poll_deadline`)

Before the loop polls it asks two parties when they want to be woken: the client and the recovery
handler. The handler's answer is computed by `wakeup_delay`, but whether it notifies is decided by
`on_resumed`, after the sleep.

* `wakeupDelay_eq_none_iff`, `wakeupDelay_eq_some_iff`: what the handler waits for.
* `pollDeadline_earliest`: the poll's deadline is the earlier of the two.
* **`deadlines_agree`**: the handler is woken when it has to notify, not later and not in vain.
-/

namespace Protun

open Trace

namespace NetworkRecoveryHandler

/-- The handler asks to be woken iff there is an instant at which it notifies. -/
theorem wakeupDelay_eq_none_iff {r : NetworkRecoveryHandler} {now : Duration} :
    r.wakeupDelay now = none ↔ ∀ n, (r.onResumed n).1 = false := by
  constructor
  · intro h n
    by_contra hfires
    obtain ⟨havail, t, ht, -⟩ := onResumed_fires.mp (Bool.not_eq_false _ ▸ hfires)
    simp [wakeupDelay, havail, ht] at h
  · intro h
    by_contra hwakes
    unfold wakeupDelay at hwakes
    split at hwakes
    · rename_i t havail ht
      have hfires : (r.onResumed t).1 = true := onResumed_fires.mpr ⟨havail, t, ht, le_refl t⟩
      rw [h t] at hfires
      cases hfires
    · exact hwakes rfl

/-- It asks for the time that is left until the pending deadline. -/
theorem wakeupDelay_eq_some_iff {r : NetworkRecoveryHandler} {now x : Duration} :
    r.wakeupDelay now = some x ↔
      r.networkAvailable = true ∧ ∃ t, r.sendDelayedNetworkChangeAt = some t ∧ x = t - now := by
  have hleft (t : Duration) : (if now < t then t - now else 0) = t - now := by
    by_cases ht : now < t
    · exact if_pos ht
    · rw [if_neg ht, Nat.sub_eq_zero_of_le (Nat.not_lt.mp ht)]
  unfold wakeupDelay
  cases r.networkAvailable <;> cases r.sendDelayedNetworkChangeAt <;> simp [hleft, eq_comm]

end NetworkRecoveryHandler

/-- The earlier of two delays, of which each may be missing. -/
def IsEarliest (a b : Option Duration) : Option Duration → Prop
  | none => a = none ∧ b = none
  | some x => (a = some x ∨ b = some x) ∧ (∀ y, a = some y → x ≤ y) ∧ ∀ y, b = some y → x ≤ y

namespace PvpnConnection

open Conn

variable {E S X F : Type} (d : PvpnDependencies E S X F)

/-- The client's answer to `wakeup_deadline`. -/
def clientDelay (h : Hist (Sys E S F) Obs) : Option Duration :=
  (d.client.wakeupDeadline h.now.env).1

/-- The handler's answer to `wakeup_delay`, at the instant the client's clock shows then. -/
def handlerDelay (h : Hist (Sys E S F) Obs) : Option Duration :=
  h.now.conn.networkRecoveryHandler.wakeupDelay
    (d.client.monotonicNow (d.client.wakeupDeadline h.now.env).2).1

/-- The combination of the two answers in `poll_deadline`. -/
theorem pollDeadline_apply (h : Hist (Sys E S F) Obs) :
    (pollDeadline d h).1 = some
      (match handlerDelay d h, clientDelay d h with
      | some networkHandlerDelay, none => some networkHandlerDelay
      | some networkHandlerDelay, some pvpnDelay => some (min pvpnDelay networkHandlerDelay)
      | none, pvpnDelay => pvpnDelay) := by
  have hquery : query d.client.wakeupDeadline h = (some (clientDelay d h), _) := rfl
  unfold pollDeadline
  rw [Prog.bind_of_some hquery, conn_bind]
  by_cases hw : h.now.conn.networkRecoveryHandler.wantsWakeup = true
  · rw [Hist.set_now, if_pos hw]
    rfl
  · -- the clock is not read; at any instant the handler would have no answer
    have hnone : handlerDelay d h = none := by
      simp only [NetworkRecoveryHandler.wantsWakeup, Bool.and_eq_true, not_and] at hw
      unfold handlerDelay NetworkRecoveryHandler.wakeupDelay
      split
      · rename_i notifyAt havail ht
        simp [ht] at hw
        rw [havail] at hw
        cases hw
      · rfl
    rw [Hist.set_now, if_neg hw, hnone]
    rfl

/-- `poll_deadline` answers the earlier of the delays that exist. -/
theorem pollDeadline_earliest (h : Hist (Sys E S F) Obs) :
    ∃ deadline, (pollDeadline d h).1 = some deadline ∧
      IsEarliest (clientDelay d h) (handlerDelay d h) deadline := by
  refine ⟨_, pollDeadline_apply d h, ?_⟩
  cases handlerDelay d h with
  | none => cases clientDelay d h <;> simp [IsEarliest]
  | some y =>
    cases clientDelay d h with
    | none => simp [IsEarliest]
    | some x =>
      refine ⟨?_, ?_, ?_⟩
      · rcases le_total x y with hxy | hyx
        · exact .inl (by rw [min_eq_left hxy])
        · exact .inr (by rw [min_eq_right hyx])
      · rintro _ ⟨⟩
        exact min_le_left x y
      · rintro _ ⟨⟩
        exact min_le_right x y

/-- **The sleep ends when it has to.** For every state of the handler and every instant `now`: if
`wakeup_delay` answers nothing, `on_resumed` notifies at no instant; if it answers `x`, `on_resumed`
notifies at `now + x` and at no instant from `now` on before that. And `poll_deadline` answers the
earlier of the client's and the handler's delays, of those that exist. -/
theorem deadlines_agree (r : NetworkRecoveryHandler) (now : Duration) (h : Hist (Sys E S F) Obs) :
    (r.wakeupDelay now = none → ∀ n, (r.onResumed n).1 = false) ∧
    (∀ x, r.wakeupDelay now = some x → (r.onResumed (now + x)).1 = true ∧
      ∀ n, now ≤ n → n < now + x → (r.onResumed n).1 = false) ∧
    ∃ deadline, (pollDeadline d h).1 = some deadline ∧
      IsEarliest (clientDelay d h) (handlerDelay d h) deadline := by
  refine ⟨NetworkRecoveryHandler.wakeupDelay_eq_none_iff.mp, fun x hx => ?_,
    pollDeadline_earliest d h⟩
  obtain ⟨havail, t, ht, rfl⟩ := NetworkRecoveryHandler.wakeupDelay_eq_some_iff.mp hx
  constructor
  · exact NetworkRecoveryHandler.onResumed_fires.mpr
      ⟨havail, t, ht, Nat.sub_le_iff_le_add'.mp (le_refl _)⟩
  · intro n hn hlt
    by_contra hfires
    obtain ⟨-, t', ht', hle⟩ :=
      NetworkRecoveryHandler.onResumed_fires.mp (Bool.not_eq_false _ ▸ hfires)
    obtain rfl : t = t' := Option.some.inj (ht.symm.trans ht')
    -- the deadline has passed at `n`, so there was less to wait for
    have hwait : now + (t - now) ≤ n := by
      rcases Nat.le_total now t with hnt | htn
      · exact (Nat.add_sub_cancel' hnt).le.trans hle
      · rw [Nat.sub_eq_zero_of_le htn]
        exact hn
    exact absurd hlt (Nat.not_lt.mpr hwait)

end PvpnConnection

end Protun
