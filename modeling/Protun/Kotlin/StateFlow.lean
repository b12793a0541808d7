import Protun.Trace.Automaton

/-!
# State flows

A `MutableStateFlow` holds a value. Assigning an equal value does nothing, any other wakes the
collector. When the collector is resumed it looks at the value of that moment and emits it unless it
is the one emitted last, so values in between are skipped.

A program often keeps a copy of the value: it reads the flow once, when the copy is made, and from
then on lets the collector bring it up to date. `Mirror` is this arrangement. The two ways to the
value are not synchronised. A copy read *ahead* of the collector is left behind if the value goes
back to the one emitted last before the collector is resumed, since nothing is emitted then.

* **`Mirror.Tracks.copy_eq_value_iff`**: whenever the collector has nothing to do, the copy is up to
  date iff it was not read ahead of the collector, or something has been emitted since.
-/

namespace Protun.Kotlin

open Trace

/-- The coroutine of `onEach { … }.launchIn(scope)`. -/
structure Collector (α : Type) where
  /-- What it was given last. -/
  emitted : Option α
  /-- It is to be resumed. -/
  pending : Bool

/-- A `MutableStateFlow` with at most one collector. -/
structure StateFlow (α : Type) where
  value : α
  collector : Option (Collector α)

namespace StateFlow

variable {α : Type}

/-- `MutableStateFlow(value)`. -/
def new (value : α) : StateFlow α := ⟨value, none⟩

/-- What the collector was given last. -/
def emitted (f : StateFlow α) : Option α := f.collector.bind Collector.emitted

/-- A collector that starts: it is to be resumed once, whatever the value. -/
def launch (f : StateFlow α) : StateFlow α := { f with collector := some ⟨none, true⟩ }

/-- The scope of the collector is cancelled. -/
def cancel (f : StateFlow α) : StateFlow α := { f with collector := none }

/-- There is a collector, and it waits for a value. -/
def Quiet (f : StateFlow α) : Prop := f.collector.map Collector.pending = some false

instance (f : StateFlow α) : Decidable f.Quiet := inferInstanceAs (Decidable (_ = _))

/-- A collector that waits has been given the value. -/
def Conflated (f : StateFlow α) : Prop := f.Quiet → f.emitted = some f.value

variable [DecidableEq α]

/-- `value = v`. -/
def set (f : StateFlow α) (v : α) : StateFlow α :=
  if v = f.value then f
  else ⟨v, f.collector.map fun c => { c with pending := true }⟩

/-- The collector is resumed: what it emits, if anything. -/
def resume (f : StateFlow α) : Option (Option α × StateFlow α) :=
  match f.collector with
  | some ⟨emitted, true⟩ =>
    some (if emitted = some f.value then none else some f.value,
      { f with collector := some ⟨some f.value, false⟩ })
  | _ => none

@[simp] theorem emitted_set (f : StateFlow α) (v : α) : (f.set v).emitted = f.emitted := by
  unfold set emitted
  split
  · rfl
  · cases f.collector <;> rfl

@[simp] theorem value_set (f : StateFlow α) (v : α) : (f.set v).value = v := by
  unfold set
  split
  · next h => exact h.symm
  · rfl

theorem Conflated.set {f : StateFlow α} (h : f.Conflated) (v : α) : (f.set v).Conflated := by
  unfold StateFlow.set
  split
  · exact h
  · intro hq
    simp only [Quiet, Option.map_map, Option.map_eq_some_iff] at hq
    obtain ⟨c, -, ⟨⟩⟩ := hq

/-- What a collector that is resumed does. -/
theorem resume_eq_some {f f' : StateFlow α} {e : Option α} (h : f.resume = some (e, f')) :
    f' = { f with collector := some ⟨some f.value, false⟩ } ∧
      e = if f.emitted = some f.value then none else some f.value := by
  unfold resume at h
  split at h
  · next emitted hc =>
    cases h
    exact ⟨rfl, by rw [StateFlow.emitted, hc]; rfl⟩
  · cases h

end StateFlow

/-! ## Copies of the value -/

/-- A flow and a copy of its value. -/
structure Mirror (α : Type) where
  flow : StateFlow α
  copy : Option α
  /-- The copy was read when the collector had not been given that value, and it has been given
  nothing since. -/
  ahead : Bool

namespace Mirror

variable {α : Type}

inductive Event (α : Type) where
  | set (v : α)
  | launch
  | cancel
  | resume
  /-- A copy is made. -/
  | read
  | drop

/-- The copy is what was emitted last, unless it was read ahead. -/
structure Tracks (m : Mirror α) : Prop where
  conflated : m.flow.Conflated
  copy : ∀ c, m.copy = some c → (m.flow.emitted = some c ↔ m.ahead = false)

variable {m m' : Mirror α}

/-- A flow of which no copy has been made. -/
theorem tracks_new (value : α) (ahead : Bool) : Tracks ⟨.new value, none, ahead⟩ :=
  ⟨nofun, nofun⟩

/-- **When a copy is up to date.** -/
theorem Tracks.copy_eq_value_iff (h : m.Tracks) (hq : m.flow.Quiet) {c : α}
    (hc : m.copy = some c) : c = m.flow.value ↔ m.ahead = false := by
  rw [← h.copy c hc, h.conflated hq, Option.some_inj]
  exact eq_comm

variable [DecidableEq α]

def step (m : Mirror α) : Event α → Option (Mirror α)
  | .set v => some { m with flow := m.flow.set v }
  | .launch => some { m with flow := m.flow.launch, ahead := true }
  | .cancel => some { m with flow := m.flow.cancel, ahead := true }
  | .resume =>
    m.flow.resume.map fun r =>
      match r.1 with
      | none => { m with flow := r.2 }
      | some v => ⟨r.2, m.copy.map fun _ => v, false⟩
  | .read =>
    some { m with copy := some m.flow.value, ahead := decide (m.flow.emitted ≠ some m.flow.value) }
  | .drop => some { m with copy := none }

theorem Tracks.of_resume (h : m.Tracks) (hm : m.step .resume = some m') : m'.Tracks := by
  obtain ⟨⟨e, f⟩, hf, rfl⟩ := Option.map_eq_some_iff.mp hm
  obtain ⟨rfl, rfl⟩ := StateFlow.resume_eq_some hf
  by_cases he : m.flow.emitted = some m.flow.value
  · -- nothing is emitted: the collector had been given the value already
    simp only [if_pos he]
    refine ⟨fun _ => rfl, fun c hc => ?_⟩
    rw [← h.copy c hc, he]
    rfl
  · simp only [if_neg he]
    refine ⟨fun _ => rfl, fun c hc => ?_⟩
    obtain ⟨_, -, rfl⟩ := Option.map_eq_some_iff.mp hc
    exact ⟨fun _ => rfl, fun _ => rfl⟩

theorem Tracks.of_step {e : Event α} (h : m.Tracks) (hm : m.step e = some m') : m'.Tracks := by
  cases e with
  | set v =>
    cases hm
    exact ⟨h.conflated.set v, fun c hc => by simpa using h.copy c hc⟩
  | launch =>
    cases hm
    exact ⟨nofun, fun c _ => ⟨nofun, nofun⟩⟩
  | cancel =>
    cases hm
    exact ⟨nofun, fun c _ => ⟨nofun, nofun⟩⟩
  | resume => exact h.of_resume hm
  | read =>
    cases hm
    refine ⟨h.conflated, ?_⟩
    rintro c ⟨⟩
    simp
  | drop =>
    cases hm
    exact ⟨h.conflated, nofun⟩

theorem Tracks.of_after {l : List (Event α)} (h : m.Tracks) (hm : after Mirror.step m l = some m') :
    m'.Tracks :=
  after_inv (I := Tracks) hm h fun _ _ _ hstep ht => ht.of_step hstep

end Mirror

end Protun.Kotlin
