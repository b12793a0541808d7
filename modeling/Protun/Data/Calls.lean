import Mathlib.Data.List.Basic

/-!
# The calls on a component

A component is called again and again: `step s op` is what the call `op` returns in the state `s`,
and the state it leaves.

* `stateAfter step s ops`: the state after a sequence of calls.
* `callsFrom step s ops`: the calls, each with the state it is made in.
* `state_of_callsFrom`: the call at a position is made in the state the calls before it have left.
-/

namespace Protun

/-- A call and the state it is made in. -/
structure Call (ι σ : Type) where
  op : ι
  state : σ
  deriving DecidableEq, Repr

variable {ι ο σ : Type} (step : σ → ι → ο × σ)

/-- The state after a sequence of calls. -/
def stateAfter (s : σ) (ops : List ι) : σ := ops.foldl (fun s op => (step s op).2) s

/-- The calls of a sequence, each with the state it is made in. -/
def callsFrom (s : σ) : List ι → List (Call ι σ)
  | [] => []
  | op :: ops => ⟨op, s⟩ :: callsFrom (step s op).2 ops

@[simp] theorem stateAfter_nil (s : σ) : stateAfter step s [] = s := rfl

@[simp] theorem stateAfter_snoc (s : σ) (ops : List ι) (op : ι) :
    stateAfter step s (ops ++ [op]) = (step (stateAfter step s ops) op).2 :=
  List.foldl_append

@[simp] theorem callsFrom_nil (s : σ) : callsFrom step s [] = [] := rfl

@[simp] theorem callsFrom_snoc (s : σ) (ops : List ι) (op : ι) :
    callsFrom step s (ops ++ [op]) = callsFrom step s ops ++ [⟨op, stateAfter step s ops⟩] := by
  induction ops generalizing s with
  | nil => rfl
  | cons op' ops ih =>
    rw [List.cons_append, callsFrom, callsFrom, ih]
    rfl

theorem callsFrom_take (s : σ) (ops : List ι) (j : Nat) :
    (callsFrom step s ops).take j = callsFrom step s (ops.take j) := by
  induction ops generalizing s j with
  | nil => simp
  | cons op ops ih =>
    cases j with
    | zero => rfl
    | succ j => simp [callsFrom, ih]

variable {step}

/-- The call at a position is made in the state the calls before it have left. -/
theorem state_of_callsFrom {s : σ} {ops : List ι} {j : Nat} {c : Call ι σ}
    (h : (callsFrom step s ops)[j]? = some c) : c.state = stateAfter step s (ops.take j) := by
  induction ops generalizing s j with
  | nil => simp at h
  | cons op ops ih =>
    cases j with
    | zero =>
      obtain rfl : ⟨op, s⟩ = c := by simpa [callsFrom] using h
      rfl
    | succ j =>
      rw [ih (by simpa [callsFrom] using h)]
      rfl

end Protun
