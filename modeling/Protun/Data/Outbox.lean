import Mathlib.Data.List.Basic
import Mathlib.Logic.Function.Iterate

/-!
# Emptying a queue of chunks into a device

An `Outbox` is a device that takes elements in order together with a queue of chunks for it. Offered
a chunk, the device takes any number of elements off its front, or answers an error. `drain` offers
the first chunk again and again, puts back what was not taken, and stops at an error or when
the queue is empty.

* **`drain_spec`**: nothing is lost, doubled or reordered (`total`), whatever the device answers;
  the elements taken are counted; the queue is empty iff there was no error.
* **`drain_stops_iff`**: a device that goes on taking nothing keeps it busy for ever, so it has
  fuel. It stops iff the device never comes to take nothing of a chunk for ever (`Starves`).
-/

namespace Protun

/-- What a device has taken so far and the chunks that wait for it. -/
structure Outbox (α : Type) where
  taken : List α
  waiting : List (List α)

namespace Outbox

variable {α ε E : Type}

/-- A device with environment `E`: how many elements of `data` it takes, or an error. -/
abbrev Device (α ε E : Type) := (data : List α) → E → Except ε (Fin (data.length + 1)) × E

/-- Everything that was ever put in, in order. -/
def total (o : Outbox α) : List α := o.taken ++ o.waiting.flatten

/-- Put a chunk at the end of the queue. -/
def put (o : Outbox α) (data : List α) : Outbox α := { o with waiting := o.waiting ++ [data] }

/-- `count` elements of the first chunk `data` are taken, `rest` are the other chunks. -/
def take (o : Outbox α) (data : List α) (rest : List (List α)) (count : Nat) : Outbox α where
  taken := o.taken ++ data.take count
  waiting := if count < data.length then data.drop count :: rest else rest

/-- Offer chunks until the queue is empty or the device fails: the number of elements taken, added
to `written`, and the error. -/
def drain (write : Device α ε E) :
    Nat → Nat → Outbox α → E → Option ((Nat × Option ε) × Outbox α × E)
  | 0, _, _, _ => none
  | fuel + 1, written, o, e =>
    match o.waiting with
    | [] => some ((written, none), o, e)
    | data :: rest =>
      match write data e with
      | (.ok count, e) => drain write fuel (written + count) (o.take data rest count) e
      | (.error err, e) => some ((written, some err), o, e)

@[simp] theorem total_put (o : Outbox α) (data : List α) :
    (o.put data).total = o.total ++ data := by
  simp [total, put]

theorem total_take {o : Outbox α} {data : List α} {rest : List (List α)}
    (hw : o.waiting = data :: rest) (count : Nat) : (o.take data rest count).total = o.total := by
  unfold total take
  rw [hw]
  split
  · simp only [List.flatten_cons, List.append_assoc]
    rw [← List.append_assoc (data.take count), List.take_append_drop]
  · rename_i hlt
    rw [List.take_of_length_le (Nat.le_of_not_lt hlt), List.append_assoc, List.flatten_cons]

/-- What a drain leaves. -/
structure Drained (written : Nat) (o : Outbox α) (written' : Nat) (err : Option ε)
    (o' : Outbox α) : Prop where
  total : o'.total = o.total
  /-- The device only takes more. -/
  taken : o.taken <+: o'.taken
  count : written' + o.taken.length = written + o'.taken.length
  empty : err = none ↔ o'.waiting = []

theorem drain_spec {write : Device α ε E} {fuel written : Nat} {o : Outbox α} {e : E}
    {written' : Nat} {err : Option ε} {o' : Outbox α} {e' : E}
    (h : drain write fuel written o e = some ((written', err), o', e')) :
    Drained written o written' err o' := by
  induction fuel generalizing written o e with
  | zero => cases h
  | succ fuel ih =>
    unfold drain at h
    cases hw : o.waiting with
    | nil =>
      rw [hw] at h
      cases h
      exact ⟨rfl, List.prefix_refl _, rfl, by simp [hw]⟩
    | cons data rest =>
      rw [hw] at h
      dsimp only at h
      cases ha : write data e with
      | mk answer e₁ =>
        rw [ha] at h
        cases answer with
        | error err' =>
          cases h
          exact ⟨rfl, List.prefix_refl _, rfl, by simp [hw]⟩
        | ok count =>
          have hd := ih h
          have hle : (count : Nat) ≤ data.length := Nat.le_of_lt_succ count.isLt
          refine ⟨hd.total.trans (total_take hw _), ?_, ?_, hd.empty⟩
          · exact (List.prefix_append _ _).trans hd.taken
          · have hcount := hd.count
            simp only [take, List.length_append, List.length_take] at hcount
            omega

/-- A bound for the number of offers to a device that takes something of every chunk. -/
def weight (waiting : List (List α)) : Nat := waiting.flatten.length + waiting.length

theorem weight_cons (data : List α) (rest : List (List α)) :
    weight (data :: rest) = data.length + 1 + weight rest := by
  simp only [weight, List.flatten_cons, List.length_append, List.length_cons]
  omega

/-! ## Devices that take nothing -/

/-- Offered `data` again and again, the device takes nothing of it for ever. -/
def Stuck (write : Device α ε E) (data : List α) (e : E) : Prop :=
  ∀ k, (write data ((fun e => (write data e).2)^[k] e)).1 = .ok 0

/-- The chunks that are left when the device has taken `count` elements of `data`. -/
def left (data : List α) (rest : List (List α)) (count : Nat) : List (List α) :=
  if count < data.length then data.drop count :: rest else rest

/-- Offered these chunks, the device comes to one of which it takes nothing for ever. -/
inductive Starves (write : Device α ε E) : List (List α) → E → Prop
  | stuck {data : List α} {rest : List (List α)} {e : E} :
      data ≠ [] → Stuck write data e → Starves write (data :: rest) e
  | later {data : List α} {rest : List (List α)} {e e' : E} {count : Fin (data.length + 1)} :
      write data e = (.ok count, e') → Starves write (left data rest count) e' →
        Starves write (data :: rest) e

/-- A drain of these chunks stops. -/
def Stops (write : Device α ε E) (waiting : List (List α)) (e : E) : Prop :=
  ∃ fuel, ∀ written (o : Outbox α), o.waiting = waiting → (drain write fuel written o e).isSome

section Starved

variable {write : Device α ε E} {data : List α} {rest waiting : List (List α)} {o : Outbox α}
  {e e' : E}

theorem Stuck.next (h : Stuck write data e) :
    ∃ e', write data e = (.ok 0, e') ∧ Stuck write data e' := by
  refine ⟨(write data e).2, Prod.ext (h 0) rfl, ?_⟩
  intro k
  have hk := h (k + 1)
  rwa [Function.iterate_succ_apply] at hk

theorem left_zero (h : data ≠ []) : left data rest 0 = data :: rest := by
  unfold left
  rw [if_pos (List.length_pos_iff.mpr h), List.drop_zero]

theorem Starves.next (h : Starves write (data :: rest) e) :
    ∃ count e', write data e = (.ok count, e') ∧ Starves write (left data rest count) e' := by
  cases h with
  | stuck hne hs =>
    obtain ⟨e', hw, hs'⟩ := hs.next
    refine ⟨0, e', hw, ?_⟩
    rw [Fin.val_zero, left_zero hne]
    exact .stuck hne hs'
  | later hw hs => exact ⟨_, _, hw, hs⟩

theorem Starves.drain_eq_none (h : Starves write o.waiting e) (fuel written : Nat) :
    drain write fuel written o e = none := by
  induction fuel generalizing written o e with
  | zero => rfl
  | succ fuel ih =>
    unfold drain
    cases hw : o.waiting with
    | nil =>
      rw [hw] at h
      cases h
    | cons data rest =>
      rw [hw] at h
      obtain ⟨count, e', ha, hs⟩ := h.next
      simp only [ha]
      exact ih hs _

theorem stops_nil : Stops write [] e := by
  refine ⟨1, fun written o hw => ?_⟩
  unfold drain
  rw [hw]
  rfl

theorem stops_of_error {err : ε} (ha : write data e = (.error err, e')) :
    Stops write (data :: rest) e := by
  refine ⟨1, fun written o hw => ?_⟩
  unfold drain
  rw [hw]
  simp only [ha]
  rfl

theorem stops_of_ok {count : Fin (data.length + 1)} (ha : write data e = (.ok count, e'))
    (h : Stops write (left data rest count) e') : Stops write (data :: rest) e := by
  obtain ⟨fuel, hstop⟩ := h
  refine ⟨fuel + 1, fun written o hw => ?_⟩
  unfold drain
  rw [hw]
  simp only [ha]
  exact hstop _ _ rfl

theorem weight_left_lt {count : Fin (data.length + 1)} (h : data = [] ∨ 0 < count.val) :
    weight (left data rest count) < weight (data :: rest) := by
  unfold left
  rw [weight_cons]
  split
  · rename_i hlt
    rcases h with rfl | hpos
    · simp at hlt
    · rw [weight_cons, List.length_drop]
      omega
  · omega

/-- The first answer that is not a mere 0 ends the drain or makes the queue lighter. -/
theorem stops_of_answer (hne : data ≠ [])
    (hok : ∀ e count e', ¬ Starves write (data :: rest) e → write data e = (.ok count, e') →
      0 < count.val → Stops write (left data rest count) e')
    {k : Nat} (hstarves : ¬ Starves write (data :: rest) e)
    (hk : (write data ((fun e => (write data e).2)^[k] e)).1 ≠ .ok 0) :
    Stops write (data :: rest) e := by
  induction k generalizing e with
  | zero =>
    cases ha : write data e with
    | mk answer e₁ =>
      cases answer with
      | error err => exact stops_of_error ha
      | ok count =>
        refine stops_of_ok ha (hok e count e₁ hstarves ha (Nat.pos_of_ne_zero ?_))
        intro hzero
        have hcount : count = 0 := Fin.ext hzero
        rw [Function.iterate_zero_apply, ha, hcount] at hk
        exact hk rfl
  | succ k ih =>
    rw [Function.iterate_succ_apply] at hk
    cases ha : write data e with
    | mk answer e₁ =>
      cases answer with
      | error err => exact stops_of_error ha
      | ok count =>
        by_cases hzero : count.val = 0
        · refine stops_of_ok ha ?_
          rw [hzero, left_zero hne]
          rw [ha] at hk
          refine ih (fun hs => hstarves (.later ha ?_)) hk
          rw [hzero, left_zero hne]
          exact hs
        · exact stops_of_ok ha (hok e count e₁ hstarves ha (Nat.pos_of_ne_zero hzero))

theorem stops_of_not_starves (h : ¬ Starves write waiting e) : Stops write waiting e := by
  induction hm : weight waiting using Nat.strongRecOn generalizing waiting e with
  | ind m ih =>
    have hrest : ∀ {data rest e count e'}, weight (data :: rest) = m →
        ¬ Starves write (data :: rest) e → write data e = (.ok count, e') →
        data = [] ∨ 0 < count.val → Stops write (left data rest count) e' := by
      intro data rest e count e' hmd hs ha hlt
      exact ih _ (hmd ▸ weight_left_lt hlt) (fun hs' => hs (.later ha hs')) rfl
    cases waiting with
    | nil => exact stops_nil
    | cons data rest =>
      by_cases hne : data = []
      · cases ha : write data e with
        | mk answer e₁ =>
          cases answer with
          | error err => exact stops_of_error ha
          | ok count => exact stops_of_ok ha (hrest hm h ha (.inl hne))
      · have hstuck : ¬ Stuck write data e := fun hs => h (.stuck hne hs)
        obtain ⟨k, hk⟩ := not_forall.mp hstuck
        exact stops_of_answer hne (fun e count e' hs ha hpos => hrest hm hs ha (.inr hpos)) h hk

/-- **A drain stops iff the device does not starve it.** -/
theorem drain_stops_iff (written : Nat) (o : Outbox α) (e : E) :
    (∃ fuel, (drain write fuel written o e).isSome) ↔ ¬ Starves write o.waiting e := by
  constructor
  · rintro ⟨fuel, hstop⟩ hs
    rw [hs.drain_eq_none] at hstop
    cases hstop
  · intro h
    obtain ⟨fuel, hstop⟩ := stops_of_not_starves h
    exact ⟨fuel, hstop written o rfl⟩

end Starved

end Outbox

end Protun
