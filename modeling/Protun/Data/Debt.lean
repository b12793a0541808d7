import Mathlib.Algebra.Order.Group.Defs
import Mathlib.Algebra.Order.Group.MinMax
import Mathlib.Algebra.Order.Monoid.Basic
import Mathlib.Tactic.Abel

/-!
# A debt that cannot become negative

`debt step t n` starts with `step`. Each round adds `step` to it and pays off the time that has gone
by (`t (n + 1) - t n`), and what is paid too much is lost. Its bound is a maximum over the rounds
since which nothing was lost.

* `debt_le_iff`: when the debt is at most `c`, in terms of the times alone.
* `debt_le_step_iff`: when it never exceeds the `step` it starts with.
-/

namespace Protun

variable {α : Type} [AddCommGroup α] [LinearOrder α] [IsOrderedAddMonoid α]

/-- What is left to pay after `n` rounds. -/
def debt (step : α) (t : Nat → α) : Nat → α
  | 0 => step
  | n + 1 => max 0 (debt step t n + step - (t (n + 1) - t n))

theorem debt_le_iff (step : α) (t : Nat → α) (n : Nat) (c : α) :
    debt step t n ≤ c ↔
      (n + 1) • step ≤ c + (t n - t 0) ∧
        ∀ k, 0 < k → k ≤ n → (n - k) • step ≤ c + (t n - t k) := by
  -- the round `n + 1` moves the bound by `step - (t (n + 1) - t n)`, and adds the case `k = n + 1`
  induction n generalizing c with
  | zero =>
    simp only [debt, Nat.zero_add, one_nsmul, sub_self, add_zero]
    refine ⟨fun h => ⟨h, fun k hk hk' => absurd hk (by omega)⟩, And.left⟩
  | succ n ih =>
    have hmove : ∀ k,
        c - step + (t (n + 1) - t n) + (t n - t k) = c + (t (n + 1) - t k) - step := by
      intro k
      abel
    have hsmul : ∀ k ≤ n, (n + 1 - k) • step = (n - k) • step + step := by
      intro k hk
      rw [Nat.succ_sub hk, succ_nsmul]
    have hdebt : debt step t n + step - (t (n + 1) - t n) ≤ c ↔
        debt step t n ≤ c - step + (t (n + 1) - t n) := by
      rw [sub_le_iff_le_add, ← le_sub_iff_add_le, add_sub_right_comm]
    rw [debt, max_le_iff, hdebt, ih]
    constructor
    · rintro ⟨hc, hzero, hrest⟩
      rw [hmove, le_sub_iff_add_le, ← succ_nsmul] at hzero
      refine ⟨hzero, fun k hk hk' => ?_⟩
      by_cases hlast : k = n + 1
      · subst hlast
        simpa using hc
      · have hk'' : k ≤ n := by omega
        have h := hrest k hk hk''
        rwa [hmove, le_sub_iff_add_le, ← hsmul k hk''] at h
    · rintro ⟨hzero, hrest⟩
      refine ⟨?_, ?_, fun k hk hk' => ?_⟩
      · simpa using hrest (n + 1) (by omega) le_rfl
      · rwa [hmove, le_sub_iff_add_le, ← succ_nsmul]
      · rw [hmove, le_sub_iff_add_le, ← hsmul k hk']
        exact hrest k hk (by omega)

theorem debt_le_step_iff {step : α} (hstep : 0 ≤ step) (t : Nat → α) :
    (∀ n, debt step t n ≤ step) ↔
      (∀ n, n • step ≤ t n - t 0) ∧ ∀ k n, 0 < k → n • step ≤ t (k + n + 1) - t k := by
  have hcancel : ∀ (n : Nat) (x : α), (n + 1) • step ≤ step + x ↔ n • step ≤ x := by
    intro n x
    rw [succ_nsmul', add_le_add_iff_left]
  simp only [debt_le_iff, hcancel]
  constructor
  · intro h
    refine ⟨fun n => (h n).1, fun k n hk => ?_⟩
    have hkn := (h (k + n + 1)).2 k hk (by omega)
    rwa [show k + n + 1 - k = n + 1 by omega, hcancel] at hkn
  · rintro ⟨hfirst, hlater⟩ n
    refine ⟨hfirst n, fun k hk hkn => ?_⟩
    by_cases hlast : k = n
    · subst hlast
      simpa using hstep
    · obtain ⟨m, rfl⟩ : ∃ m, n = k + m + 1 := ⟨n - k - 1, by omega⟩
      rw [show k + m + 1 - k = m + 1 by omega, hcancel]
      exact hlater k m hk

end Protun
