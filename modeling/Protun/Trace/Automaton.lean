import Mathlib.Data.List.Basic

/-!
# Automata and transition systems

An automaton is a partial function `next : σ → α → Option σ`; `after next s l` is the state it is in
after the letters `l`, if it accepts them. A transition system is a relation
`step : σ → α → σ → Prop`; `Run step s l s'` says that the steps labelled `l` lead from `s` to `s'`.
A thread is described by an automaton, a system of threads by a transition system whose labels are
the steps of all of them, in any order.

* `after_inv`, `Run.inv`: what every step keeps holds after every run.
* `Run.crossing`: a run that leads out of a set of states has a step that leaves it.
* `forall_reached_iff`: if the good steps are those that keep `I`, it holds in all states of a run
  iff all its steps are good (`Throughout`).
-/

namespace Protun.Trace

variable {σ α : Type}

/-! ## Automata -/

/-- The state after the letters `l`. -/
def after (next : σ → α → Option σ) : σ → List α → Option σ
  | s, [] => some s
  | s, a :: l => (next s a).bind fun s' => after next s' l

section After

variable {next : σ → α → Option σ}

theorem after_cons {s s' : σ} {a : α} {l : List α} :
    after next s (a :: l) = some s' ↔ ∃ u, next s a = some u ∧ after next u l = some s' :=
  Option.bind_eq_some_iff

theorem after_append {s s' : σ} {l l' : List α} :
    after next s (l ++ l') = some s' ↔
      ∃ u, after next s l = some u ∧ after next u l' = some s' := by
  induction l generalizing s with
  | nil => simp [after]
  | cons a l ih =>
    rw [List.cons_append, after_cons]
    constructor
    · rintro ⟨u, hu, h⟩
      obtain ⟨v, hv, h⟩ := ih.mp h
      exact ⟨v, after_cons.mpr ⟨u, hu, hv⟩, h⟩
    · rintro ⟨v, hv, h⟩
      obtain ⟨u, hu, hv⟩ := after_cons.mp hv
      exact ⟨u, hu, ih.mpr ⟨v, hv, h⟩⟩

theorem after_snoc {s s' : σ} {l : List α} {a : α} :
    after next s (l ++ [a]) = some s' ↔ ∃ u, after next s l = some u ∧ next u a = some s' := by
  simp [after_append, after]

/-- Letters that leave `s` alone. -/
theorem after_ignored {s : σ} {l : List α} (h : ∀ a ∈ l, next s a = some s) :
    after next s l = some s := by
  induction l with
  | nil => rfl
  | cons a l ih =>
    exact after_cons.mpr ⟨s, h a (by simp), ih fun b hb => h b (List.mem_cons_of_mem a hb)⟩

/-- **What every letter keeps holds after every word.** -/
theorem after_inv {I : σ → Prop} {s s' : σ} {l : List α} (h : after next s l = some s') (hs : I s)
    (hnext : ∀ s a s', next s a = some s' → I s → I s') : I s' := by
  induction l generalizing s with
  | nil =>
    cases h
    exact hs
  | cons a l ih =>
    obtain ⟨u, hu, h⟩ := after_cons.mp h
    exact ih h (hnext s a u hu hs)

/-- The same for a word of letters of one kind. -/
theorem after_inv_of_forall {I : σ → Prop} {P : α → Prop} {s s' : σ} {l : List α}
    (h : after next s l = some s') (hs : I s) (hl : ∀ a ∈ l, P a)
    (hnext : ∀ s a s', next s a = some s' → P a → I s → I s') : I s' := by
  induction l generalizing s with
  | nil =>
    cases h
    exact hs
  | cons a l ih =>
    obtain ⟨u, hu, h⟩ := after_cons.mp h
    exact ih h (hnext s a u hu (hl a (by simp)) hs) fun b hb => hl b (List.mem_cons_of_mem a hb)

end After

/-! ## Transition systems -/

/-- The steps labelled `l` lead from the first state to the last. -/
inductive Run (step : σ → α → σ → Prop) : σ → List α → σ → Prop where
  | nil (s : σ) : Run step s [] s
  | cons {s u s' : σ} {a : α} {l : List α} (head : step s a u) (tail : Run step u l s') :
      Run step s (a :: l) s'

namespace Run

variable {step : σ → α → σ → Prop} {s s' : σ} {l l' : List α}

theorem append {u : σ} (h : Run step s l u) (h' : Run step u l' s') : Run step s (l ++ l') s' := by
  induction h with
  | nil s => exact h'
  | cons head tail ih => exact .cons head (ih h')

/-- A run can be cut anywhere. -/
theorem split (h : Run step s (l ++ l') s') : ∃ u, Run step s l u ∧ Run step u l' s' := by
  induction l generalizing s with
  | nil => exact ⟨s, .nil s, h⟩
  | cons a l ih =>
    cases h with
    | cons head tail =>
      obtain ⟨u, h1, h2⟩ := ih tail
      exact ⟨u, .cons head h1, h2⟩

/-- **What every step keeps holds after every run.** -/
theorem inv {I : σ → Prop} (h : Run step s l s') (hs : I s)
    (hstep : ∀ s a s', step s a s' → I s → I s') : I s' := by
  induction h with
  | nil s => exact hs
  | cons head tail ih => exact ih (hstep _ _ _ head hs)

/-- **A run that leads out of `I` has a step that leaves it.** -/
theorem crossing {I : σ → Prop} (h : Run step s l s') (hs : I s) (hs' : ¬ I s') :
    ∃ a ∈ l, ∃ u v, step u a v ∧ I u ∧ ¬ I v := by
  induction h with
  | nil s => exact absurd hs hs'
  | @cons s u s' a l head tail ih =>
    by_cases hu : I u
    · obtain ⟨b, hb, hcross⟩ := ih hu hs'
      exact ⟨b, List.mem_cons_of_mem a hb, hcross⟩
    · exact ⟨a, by simp, s, u, head, hs, hu⟩

end Run

/-- All steps of a run of `l` from `s` are good. -/
def Throughout (step : σ → α → σ → Prop) (Good : σ → α → Prop) (s : σ) (l : List α) : Prop :=
  ∀ l₁ a l₂ u, l = l₁ ++ a :: l₂ → Run step s l₁ u → Good u a

section Good

variable {step : σ → α → σ → Prop} {Good : σ → α → Prop} {I : σ → Prop} {s s' : σ} {l : List α}

/-- **What every good step keeps holds after every run of good steps.** -/
theorem Run.inv_throughout (h : Run step s l s') (hs : I s) (hgood : Throughout step Good s l)
    (hstep : ∀ s a s', step s a s' → Good s a → I s → I s') : I s' := by
  induction h with
  | nil s => exact hs
  | @cons s u s' a l head tail ih =>
    refine ih (hstep s a u head (hgood [] a l s rfl (.nil s)) hs) ?_
    intro l₁ b l₂ v hl hrun
    exact hgood (a :: l₁) b l₂ v (by rw [hl]; rfl) (.cons head hrun)

theorem forall_reached_iff (hs : I s) (htotal : ∀ s a, ∃ s', step s a s')
    (hstep : ∀ s a s', step s a s' → I s → (I s' ↔ Good s a)) :
    (∀ l₁ l₂ u, l = l₁ ++ l₂ → Run step s l₁ u → I u) ↔ Throughout step Good s l := by
  constructor
  · intro h l₁ a l₂ u hl hrun
    obtain ⟨v, hv⟩ := htotal u a
    have hu : I u := h l₁ (a :: l₂) u hl hrun
    have hv' : I v := h (l₁ ++ [a]) l₂ v (by rw [hl]; simp) (hrun.append (.cons hv (.nil v)))
    exact (hstep u a v hv hu).mp hv'
  · intro h l₁ l₂ u hl hrun
    have hgood : Throughout step Good s l₁ := by
      intro k₁ a k₂ v hk hrun'
      exact h k₁ a (k₂ ++ l₂) v (by rw [hl, hk]; simp) hrun'
    exact hrun.inv_throughout hs hgood fun s a s' ha hg hi => (hstep s a s' ha hi).mpr hg

end Good

end Protun.Trace
