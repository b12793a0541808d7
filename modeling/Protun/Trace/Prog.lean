import Mathlib.Logic.Relation
import Mathlib.Order.Defs.Unbundled

/-!
# Programs that leave a history

A program over states `σ` that makes observations `ο` is a function on histories. A history
(`Hist`) is the current state together with everything observed so far, in order, each observation
with the state it was made in. The program either returns a value or has not returned (`none`):
a loop that has used up its fuel, or a call whose callee never comes back. A program that has not
returned does nothing after that point, so its history is a prefix of the history of any longer
execution, and a statement about every fuel is a statement about every finite prefix.

* `Rel R x`: the program relates the history it starts from to the one it leaves by `R`. For a
  preorder `R` the rules below push `Rel R` through `bind`, branches and loops, so a relation that
  every primitive action respects holds of a whole program, whatever its loops do.
* `Inv I x`: `I` is kept, the instance of `Rel` at `fun h h' => I h → I h'`.
-/

namespace Protun.Trace

/-- The current state and what has been observed so far, oldest first, each observation with the
state in which it was made. -/
structure Hist (σ ο : Type) where
  now : σ
  past : List (ο × σ)

namespace Hist

variable {σ ο : Type}

/-- The history of a state that has seen nothing yet. -/
def init (s : σ) : Hist σ ο := ⟨s, []⟩

/-- Record an observation. -/
def emit (h : Hist σ ο) (o : ο) : Hist σ ο := ⟨h.now, h.past ++ [(o, h.now)]⟩

/-- Change the state, recording nothing. -/
def set (h : Hist σ ο) (s : σ) : Hist σ ο := ⟨s, h.past⟩

@[simp] theorem init_now (s : σ) : (init s : Hist σ ο).now = s := rfl
@[simp] theorem init_past (s : σ) : (init s : Hist σ ο).past = [] := rfl
@[simp] theorem emit_now (h : Hist σ ο) (o : ο) : (h.emit o).now = h.now := rfl
@[simp] theorem emit_past (h : Hist σ ο) (o : ο) :
    (h.emit o).past = h.past ++ [(o, h.now)] := rfl
@[simp] theorem set_now (h : Hist σ ο) (s : σ) : (h.set s).now = s := rfl
@[simp] theorem set_past (h : Hist σ ο) (s : σ) : (h.set s).past = h.past := rfl

end Hist

/-- A program: the value it returns, `none` if it has not returned, and the history it leaves. -/
def Prog (σ ο α : Type) : Type := Hist σ ο → Option α × Hist σ ο

namespace Prog

variable {σ ο α β : Type}

instance : Monad (Prog σ ο) where
  pure a := fun h => (some a, h)
  bind x f := fun h =>
    match x h with
    | (some a, h') => f a h'
    | (none, h') => (none, h')

/-- Update the state. -/
def modify (f : σ → σ) : Prog σ ο Unit := fun h => (some (), h.set (f h.now))

/-- Make an observation. -/
def emit (o : ο) : Prog σ ο Unit := fun h => (some (), h.emit o)

/-- Never return. -/
def stall : Prog σ ο α := fun h => (none, h)

/-- `if c { x }`. -/
def when (c : Prop) [Decidable c] (x : Prog σ ο Unit) : Prog σ ο Unit := if c then x else pure ()

/-- `for x in xs { f(x) }`. -/
def forEach : List α → (α → Prog σ ο Unit) → Prog σ ο Unit
  | [], _ => pure ()
  | x :: xs, f => do f x; forEach xs f

/-- `for x in xs { acc = f(acc, x) }`. -/
def fold (f : β → α → Prog σ ο β) : List α → β → Prog σ ο β
  | [], b => pure b
  | x :: xs, b => do fold f xs (← f b x)

/-- `while body() {}`: repeat `body` until it answers `false`, at most `fuel` times. -/
def loop : Nat → Prog σ ο Bool → Prog σ ο Unit
  | 0, _ => stall
  | fuel + 1, body => do if ← body then loop fuel body else pure ()

@[simp] theorem pure_apply (a : α) (h : Hist σ ο) : (pure a : Prog σ ο α) h = (some a, h) := rfl

theorem bind_apply (x : Prog σ ο α) (f : α → Prog σ ο β) (h : Hist σ ο) :
    (x >>= f) h = match x h with
      | (some a, h') => f a h'
      | (none, h') => (none, h') := rfl

@[simp] theorem modify_apply (g : σ → σ) (h : Hist σ ο) :
    (modify g : Prog σ ο Unit) h = (some (), h.set (g h.now)) := rfl

@[simp] theorem emit_apply (o : ο) (h : Hist σ ο) :
    (emit o : Prog σ ο Unit) h = (some (), h.emit o) := rfl

theorem when_pos {c : Prop} [Decidable c] (hc : c) (x : Prog σ ο Unit) : when c x = x := if_pos hc

theorem when_neg {c : Prop} [Decidable c] (hc : ¬ c) (x : Prog σ ο Unit) : when c x = pure () :=
  if_neg hc

/-- A program that returns continues with what follows it. -/
theorem bind_of_some {x : Prog σ ο α} {f : α → Prog σ ο β} {h h' : Hist σ ο} {a : α}
    (hx : x h = (some a, h')) : (x >>= f) h = f a h' := by
  rw [bind_apply, hx]

/-- If the whole returns, so did its first part. -/
theorem bind_returned {x : Prog σ ο α} {f : α → Prog σ ο β} {h : Hist σ ο} {b : β}
    (hr : ((x >>= f) h).1 = some b) :
    ∃ a h', x h = (some a, h') ∧ (x >>= f) h = f a h' := by
  rw [bind_apply] at hr ⊢
  cases hx : x h with
  | mk r h' =>
    rw [hx] at hr
    cases r with
    | none => cases hr
    | some a => exact ⟨a, h', rfl, rfl⟩

/-! ## Programs that return -/

/-- `x` returns from every history. -/
def Returns (x : Prog σ ο α) : Prop := ∀ h, ∃ a h', x h = (some a, h')

theorem returns_pure (a : α) : Returns (pure a : Prog σ ο α) := fun h => ⟨a, h, rfl⟩

theorem returns_bind {x : Prog σ ο α} {f : α → Prog σ ο β} (hx : Returns x)
    (hf : ∀ a, Returns (f a)) : Returns (x >>= f) := by
  intro h
  obtain ⟨a, h', hxa⟩ := hx h
  obtain ⟨b, h'', hfb⟩ := hf a h'
  exact ⟨b, h'', (bind_of_some hxa).trans hfb⟩

theorem returns_when {c : Prop} [Decidable c] {x : Prog σ ο Unit} (hx : Returns x) :
    Returns (when c x) := by
  by_cases hc : c
  · rwa [when_pos hc]
  · rw [when_neg hc]
    exact returns_pure ()

theorem returns_forEach {f : α → Prog σ ο Unit} (hf : ∀ a, Returns (f a)) :
    ∀ xs, Returns (forEach xs f)
  | [] => returns_pure ()
  | x :: xs => returns_bind (hf x) fun _ => returns_forEach hf xs

/-! ## Relations between the first and the last history -/

/-- `x` relates the history it starts from to the one it leaves by `R`. -/
def Rel (R : Hist σ ο → Hist σ ο → Prop) (x : Prog σ ο α) : Prop := ∀ h, R h (x h).2

/-- `x` keeps `I`. -/
def Inv (I : Hist σ ο → Prop) (x : Prog σ ο α) : Prop := ∀ h, I h → I (x h).2

section Rules

variable {R : Hist σ ο → Hist σ ο → Prop} [IsPreorder (Hist σ ο) R]

theorem rel_pure (a : α) : Rel R (pure a : Prog σ ο α) := fun h => refl_of R h

theorem rel_stall : Rel R (stall : Prog σ ο α) := fun h => refl_of R h

theorem rel_bind {x : Prog σ ο α} {f : α → Prog σ ο β} (hx : Rel R x) (hf : ∀ a, Rel R (f a)) :
    Rel R (x >>= f) := by
  intro h
  rw [bind_apply]
  have h1 := hx h
  cases hxh : x h with
  | mk r h' =>
    rw [hxh] at h1
    cases r with
    | none => exact h1
    | some a => exact trans_of R h1 (hf a h')

theorem rel_when {c : Prop} [Decidable c] {x : Prog σ ο Unit} (hx : c → Rel R x) :
    Rel R (when c x) := by
  unfold when
  split
  · exact hx ‹c›
  · exact rel_pure ()

theorem rel_forEach_mem {f : α → Prog σ ο Unit} :
    ∀ {xs : List α}, (∀ a ∈ xs, Rel R (f a)) → Rel R (forEach xs f)
  | [], _ => rel_pure ()
  | x :: _, hf => rel_bind (hf x List.mem_cons_self) fun _ =>
      rel_forEach_mem fun a ha => hf a (List.mem_cons_of_mem x ha)

theorem rel_forEach {f : α → Prog σ ο Unit} (hf : ∀ a, Rel R (f a)) (xs : List α) :
    Rel R (forEach xs f) :=
  rel_forEach_mem fun a _ => hf a

theorem rel_loop {body : Prog σ ο Bool} (hb : Rel R body) : ∀ fuel, Rel R (loop fuel body)
  | 0 => rel_stall
  | fuel + 1 => by
    refine rel_bind hb fun b => ?_
    cases b with
    | false => exact rel_pure ()
    | true => exact rel_loop hb fuel

end Rules

/-- Keeping an invariant is a preorder on histories. -/
instance isPreorder_imp (I : Hist σ ο → Prop) :
    IsPreorder (Hist σ ο) fun h h' => I h → I h' where
  refl _ := id
  trans _ _ _ h1 h2 := h2 ∘ h1

/-- A relation that carries `I` along makes it an invariant. -/
theorem Rel.inv {R : Hist σ ο → Hist σ ο → Prop} {I : Hist σ ο → Prop} {x : Prog σ ο α}
    (hx : Rel R x) (hI : ∀ h h', R h h' → I h → I h') : Inv I x :=
  fun h => hI h _ (hx h)

section InvRules

variable {I : Hist σ ο → Prop}

theorem inv_bind {x : Prog σ ο α} {f : α → Prog σ ο β} (hx : Inv I x) (hf : ∀ a, Inv I (f a)) :
    Inv I (x >>= f) :=
  rel_bind (R := fun h h' => I h → I h') hx hf

/-- What holds after the first part and is kept by the rest. -/
theorem leaves_bind {x : Prog σ ο α} {f : α → Prog σ ο β} {h : Hist σ ο} (hx : I (x h).2)
    (hf : ∀ a, Inv I (f a)) : I ((x >>= f) h).2 := by
  rw [bind_apply]
  cases hxh : x h with
  | mk r h' =>
    rw [hxh] at hx
    cases r with
    | none => exact hx
    | some a => exact hf a h' hx

theorem inv_pure (a : α) : Inv I (pure a : Prog σ ο α) := fun _ h => h

theorem Inv.and {J : Hist σ ο → Prop} {x : Prog σ ο α} (hI : Inv I x) (hJ : Inv J x) :
    Inv (fun h => I h ∧ J h) x :=
  fun h hh => ⟨hI h hh.1, hJ h hh.2⟩

theorem inv_when {c : Prop} [Decidable c] {x : Prog σ ο Unit} (hx : c → Inv I x) :
    Inv I (when c x) :=
  rel_when (R := fun h h' => I h → I h') hx

theorem inv_forEach {f : α → Prog σ ο Unit} (hf : ∀ a, Inv I (f a)) (xs : List α) :
    Inv I (forEach xs f) :=
  rel_forEach (R := fun h h' => I h → I h') hf xs

theorem inv_loop {body : Prog σ ο Bool} (hb : Inv I body) (fuel : Nat) : Inv I (loop fuel body) :=
  rel_loop (R := fun h h' => I h → I h') hb fuel

end InvRules

/-! ## Pre- and postconditions -/

/-- From a history that satisfies `P`, what `x` returns satisfies `Q` with the history it leaves. If
it does not return, the history it leaves satisfies `N`. -/
def Triple (P : Hist σ ο → Prop) (x : Prog σ ο α) (Q : α → Hist σ ο → Prop)
    (N : Hist σ ο → Prop) : Prop :=
  ∀ h, P h → match x h with
    | (some a, h') => Q a h'
    | (none, h') => N h'

section TripleRules

variable {P N : Hist σ ο → Prop}

theorem Triple.returned {x : Prog σ ο α} {Q : α → Hist σ ο → Prop} (hx : Triple P x Q N)
    {h : Hist σ ο} (hP : P h) {a : α} (hr : (x h).1 = some a) : Q a (x h).2 := by
  have h1 := hx h hP
  cases hxh : x h with
  | mk r h' =>
    rw [hxh] at h1 hr
    cases hr
    exact h1

/-- What follows from the postcondition holds whether the program returns or not. -/
theorem Triple.leaves {x : Prog σ ο α} {Q : α → Hist σ ο → Prop} (hx : Triple P x Q N)
    (hQ : ∀ a h, Q a h → N h) {h : Hist σ ο} (hP : P h) : N (x h).2 := by
  have h1 := hx h hP
  cases hxh : x h with
  | mk r h' =>
    rw [hxh] at h1
    cases r with
    | none => exact h1
    | some a => exact hQ a h' h1

theorem Triple.pre {P' : Hist σ ο → Prop} {x : Prog σ ο α} {Q : α → Hist σ ο → Prop}
    (hx : Triple P' x Q N) (hP : ∀ h, P h → P' h) : Triple P x Q N :=
  fun h h1 => hx h (hP h h1)

theorem Triple.post {x : Prog σ ο α} {Q Q' : α → Hist σ ο → Prop} (hx : Triple P x Q N)
    (hQ : ∀ a h, Q a h → Q' a h) : Triple P x Q' N := by
  intro h hP
  have h1 := hx h hP
  cases hxh : x h with
  | mk r h' =>
    rw [hxh] at h1
    cases r with
    | none => exact h1
    | some a => exact hQ a h' h1

theorem triple_pure {a : α} {Q : α → Hist σ ο → Prop} (h : ∀ h, P h → Q a h) :
    Triple P (pure a) Q N := h

theorem triple_bind {x : Prog σ ο α} {f : α → Prog σ ο β} {R : α → Hist σ ο → Prop}
    {Q : β → Hist σ ο → Prop} (hx : Triple P x R N) (hf : ∀ a, Triple (R a) (f a) Q N) :
    Triple P (x >>= f) Q N := by
  intro h hP
  have h1 := hx h hP
  rw [bind_apply]
  cases hxh : x h with
  | mk r h' =>
    rw [hxh] at h1
    cases r with
    | none => exact h1
    | some a => exact hf a h' h1

/-- The rule of `while body() {}`: as long as the body answers `true` it restores `P`. -/
theorem triple_loop {body : Prog σ ο Bool} {Q : Hist σ ο → Prop}
    (hb : Triple P body (fun b h => if b then P h else Q h) N) (hN : ∀ h, P h → N h) :
    ∀ fuel, Triple P (loop fuel body) (fun _ => Q) N
  | 0 => hN
  | fuel + 1 => by
    refine triple_bind hb fun b => ?_
    cases b with
    | false => exact triple_pure fun _ h => h
    | true => exact triple_loop hb hN fuel

theorem triple_when {c : Prop} [Decidable c] {x : Prog σ ο Unit}
    (hx : c → Triple P x (fun _ => P) N) : Triple P (when c x) (fun _ => P) N := by
  by_cases hc : c
  · rw [when_pos hc]
    exact hx hc
  · rw [when_neg hc]
    exact triple_pure fun _ h => h

theorem triple_forEach {f : α → Prog σ ο Unit} (hf : ∀ a, Triple P (f a) (fun _ => P) N) :
    ∀ xs, Triple P (forEach xs f) (fun _ => P) N
  | [] => triple_pure fun _ h => h
  | x :: xs => triple_bind (hf x) fun _ => triple_forEach hf xs

theorem triple_loop_self {body : Prog σ ο Bool} (hb : Triple P body (fun _ => P) N)
    (hN : ∀ h, P h → N h) (fuel : Nat) : Triple P (loop fuel body) (fun _ => P) N :=
  triple_loop (hb.post fun b h hP => by cases b <;> exact hP) hN fuel

/-- The rule of a loop with an accumulator: `J` speaks of the elements still to come, of the value
so far and of the history. -/
theorem triple_fold {f : β → α → Prog σ ο β} {J : List α → β → Hist σ ο → Prop}
    (hf : ∀ x xs b, Triple (J (x :: xs) b) (f b x) (J xs) N) :
    ∀ xs b, Triple (J xs b) (fold f xs b) (J []) N
  | [], _ => triple_pure fun _ h => h
  | x :: xs, b => triple_bind (hf x xs b) fun b' => triple_fold hf xs b'

/-- What a program leaves holds after it, whether it returns or not. -/
theorem triple_of_leaves {Q : Hist σ ο → Prop} {x : Prog σ ο α} (hx : ∀ h, P h → Q (x h).2)
    (hN : ∀ h, Q h → N h) : Triple P x (fun _ => Q) N := by
  intro h hP
  have h1 := hx h hP
  cases hxh : x h with
  | mk r h' =>
    rw [hxh] at h1
    cases r with
    | none => exact hN h' h1
    | some a => exact h1

theorem Inv.triple {x : Prog σ ο α} (hx : Inv P x) (hN : ∀ h, P h → N h) :
    Triple P x (fun _ => P) N :=
  triple_of_leaves hx hN

/-- What a program keeps that returns from every history. -/
theorem Inv.triple_of_returns {x : Prog σ ο α} (hx : Inv P x) (hr : Returns x) :
    Triple P x (fun _ => P) N := by
  intro h hP
  have h1 := hx h hP
  obtain ⟨a, h', hxh⟩ := hr h
  rw [hxh] at h1 ⊢
  exact h1

/-- An invariant may be proved with other assertions in between. -/
theorem Triple.inv {x : Prog σ ο α} (hx : Triple P x (fun _ => P) P) : Inv P x :=
  fun _ hP => hx.leaves (fun _ _ hP => hP) hP

end TripleRules

end Prog

end Protun.Trace
