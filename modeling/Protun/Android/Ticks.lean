import Mathlib.Tactic.Ring
import Protun.Data.Debt
import Protun.Kotlin.Duration

/-!
# The ticks of the statistics (`internal/Utils.kt`)

`tickFlow` emits the time of each tick and waits. What the last wait took too long, by the clock, is
taken off the next one. `createStatsRequestFlow` requests statistics at each tick, and gives it the
wall clock.

* The clock is a sequence of readings, a `Long` each (`Int64`, so their difference wraps around).
  Nothing is assumed of it.
* `delay` does not return from an infinite delay. From any other it returns, and the next reading
  says when.
* A state is what the loop keeps between two readings; `tickFlow step clock n` is the one in which
  the tick `n` is emitted, if the flow comes to it.

* `Tick.next_of_paced`: the next delay is at most `step` iff the clock shows the whole delay.
* **`ticks_do_not_drift`**: if no wait overshoots by more than `step`, the tick `n` is late by the
  last overshoot only.
* **`delays_within_step_iff`**: the delays are within `step` iff the clock shows each of them as
  whole. For steps up to 146 years this is said by the readings alone.
* `clock_set_back_stalls`: a clock that is set back by an hour gives a delay of an hour.
-/

namespace Protun.Android

open Kotlin (nanosInMillis maxNanosInMillis maxNanos maxMillis)

/-! ## The loop -/

/-- The variables of `tickFlow`. -/
structure Tick where
  lastTick : Int64
  delay : Kotlin.Duration
  deriving DecidableEq

namespace Tick

/-- `(now - lastTick).milliseconds`. -/
def waited (s : Tick) (now : Int64) : Kotlin.Duration := .ofMillis (now - s.lastTick).toInt

/-- `excessDelay`. -/
def excessDelay (s : Tick) (now : Int64) : Option Kotlin.Duration := (s.waited now).minus s.delay

/-- The body of the loop from `delay(delay)` on, if the wait ends with the reading `now`. -/
def next (step : Kotlin.Duration) (s : Tick) (now : Int64) : Option Tick :=
  if s.delay = .infinite then none
  else do
    let excessDelay ← s.excessDelay now
    let rest ← step.minus excessDelay
    pure { lastTick := now, delay := rest.coerceAtLeast .zero }

end Tick

/-- `tickFlow`: the state in which the tick `n` is emitted. -/
def tickFlow (step : Kotlin.Duration) (clock : Nat → Int64) : Nat → Option Tick
  | 0 => some { lastTick := clock 0, delay := step }
  | n + 1 => (tickFlow step clock n).bind fun s => s.next step (clock (n + 1))

/-! ## One round -/

/-- The delay is within `step`, and is of whole milliseconds if `step` is. -/
structure Tick.Paced (step : Kotlin.Duration) (s : Tick) : Prop where
  nonneg : 0 ≤ s.delay.nanos
  le : s.delay.nanos ≤ step.nanos
  whole : nanosInMillis ∣ step.nanos → nanosInMillis ∣ s.delay.nanos

/-- A delay within a finite step is finite. -/
theorem Tick.Paced.isFinite {step : Kotlin.Duration} {s : Tick} (hs : s.Paced step)
    (hstep : step.IsFinite) : s.delay.IsFinite :=
  Kotlin.Duration.isFinite_of_le hstep hs.nonneg hs.le

section Round

variable {step : Kotlin.Duration} {s s' : Tick} {now : Int64}

theorem Tick.next_eq_some (h : s.next step now = some s') :
    s.delay ≠ .infinite ∧ ∃ excess rest, s.excessDelay now = some excess ∧
      step.minus excess = some rest ∧ s' = ⟨now, rest.coerceAtLeast .zero⟩ := by
  unfold next at h
  split at h
  · cases h
  · rename_i hdelay
    obtain ⟨excess, hexcess, h⟩ := Option.bind_eq_some_iff.mp h
    obtain ⟨rest, hrest, h⟩ := Option.bind_eq_some_iff.mp h
    exact ⟨hdelay, excess, rest, hexcess, hrest, (Option.some.inj h).symm⟩

theorem Tick.exists_next (hstep : step.IsFinite) (hdelay : s.delay.IsFinite) (now : Int64) :
    ∃ excess rest, s.excessDelay now = some excess ∧ step.minus excess = some rest ∧
      s.next step now = some ⟨now, rest.coerceAtLeast .zero⟩ := by
  obtain ⟨excess, hexcess⟩ := Kotlin.Duration.exists_minus (a := s.waited now) (.inr hdelay)
  obtain ⟨rest, hrest⟩ := Kotlin.Duration.exists_minus (b := excess) (.inl hstep)
  refine ⟨excess, rest, hexcess, hrest, ?_⟩
  unfold next
  rw [if_neg hdelay.ne_infinite, show s.excessDelay now = some excess from hexcess]
  change (step.minus excess).bind _ = _
  rw [hrest]
  rfl

/-- Whole milliseconds stay whole. -/
theorem Tick.whole_next (hstep : nanosInMillis ∣ step.nanos)
    (hdelay : nanosInMillis ∣ s.delay.nanos) (h : s.next step now = some s') :
    nanosInMillis ∣ s'.delay.nanos := by
  obtain ⟨-, excess, rest, hexcess, hrest, rfl⟩ := next_eq_some h
  have hex := Kotlin.Duration.dvd_minus hexcess (Int.dvd_mul_left _ _) hdelay
  have hre := Kotlin.Duration.dvd_minus hrest hstep hex
  rw [Kotlin.Duration.nanos_coerceAtLeast]
  rcases max_choice rest.nanos Kotlin.Duration.zero.nanos with hmax | hmax
  · rw [hmax]
    exact hre
  · rw [hmax]
    exact Int.dvd_mul_left _ _

theorem nanos_zero : Kotlin.Duration.zero.nanos = 0 := rfl

/-- **One round**: from a delay within `step`, the next one is not negative, and it is within `step`
iff the clock shows the whole delay. -/
theorem Tick.next_of_paced (hstep : step.IsFinite) (hs : s.Paced step) (now : Int64) :
    ∃ s', s.next step now = some s' ∧ s'.lastTick = now ∧ 0 ≤ s'.delay.nanos ∧
      (s'.delay.nanos ≤ step.nanos ↔ s.delay ≤ s.waited now) := by
  have hdelay := hs.isFinite hstep
  obtain ⟨excess, rest, hexcess, hrest, hnext⟩ := exists_next hstep hdelay now
  have hwhole : nanosInMillis ∣ step.nanos → nanosInMillis ∣ excess.nanos := fun h =>
    Kotlin.Duration.dvd_minus hexcess (Int.dvd_mul_left _ _) (hs.whole h)
  have hle := Kotlin.Duration.minus_le_iff hrest hstep (hs.nonneg.trans hs.le) hwhole
  have hpos := Kotlin.Duration.minus_nonneg_iff hexcess (.inr hdelay)
  refine ⟨_, hnext, rfl, ?_, ?_⟩
  · rw [Kotlin.Duration.nanos_coerceAtLeast]
    exact le_max_right _ _
  · rw [Kotlin.Duration.nanos_coerceAtLeast, nanos_zero, max_le_iff, hle, hpos,
      and_iff_left (hs.nonneg.trans hs.le)]
    exact Kotlin.Duration.le_def.symm

end Round

/-! ## Whole runs -/

section Run

variable {step : Kotlin.Duration} {clock : Nat → Int64} {n : Nat} {s s' : Tick}

theorem tickFlow_succ (hs : tickFlow step clock n = some s) :
    tickFlow step clock (n + 1) = s.next step (clock (n + 1)) := by
  rw [tickFlow, hs]
  rfl

theorem whole_tickFlow (hstep : nanosInMillis ∣ step.nanos) (hs : tickFlow step clock n = some s) :
    nanosInMillis ∣ s.delay.nanos := by
  induction n generalizing s with
  | zero =>
    cases hs
    exact hstep
  | succ n ih =>
    obtain ⟨u, hu, hnext⟩ := Option.bind_eq_some_iff.mp hs
    exact Tick.whole_next hstep (ih hu) hnext

/-- After an infinite delay there is no tick. -/
theorem delay_of_infinite (hs : tickFlow .infinite clock n = some s) : s.delay = .infinite := by
  have hnone : ∀ n, tickFlow .infinite clock (n + 1) = none := by
    intro n
    induction n with
    | zero => rfl
    | succ n ih => rw [tickFlow, ih, Option.bind_none]
  cases n with
  | zero =>
    cases hs
    rfl
  | succ n =>
    rw [hnone] at hs
    cases hs

/-- The delays that are requested are between zero and `step`. -/
def DelaysWithinStep (step : Kotlin.Duration) (clock : Nat → Int64) : Prop :=
  ∀ n s, tickFlow step clock n = some s → .zero ≤ s.delay ∧ s.delay ≤ step

/-- The clock shows every wait to be as long as was requested, if the wait ends. -/
def WaitsWhole (step : Kotlin.Duration) (clock : Nat → Int64) : Prop :=
  ∀ n s, tickFlow step clock n = some s → s.delay ≠ .infinite → s.delay ≤ s.waited (clock (n + 1))

theorem DelaysWithinStep.paced (h : DelaysWithinStep step clock)
    (hs : tickFlow step clock n = some s) : s.Paced step where
  nonneg := (h n s hs).1
  le := (h n s hs).2
  whole hstep := whole_tickFlow hstep hs

theorem paced_of_waitsWhole (hpos : 0 ≤ step.nanos) (hfin : step.IsFinite)
    (hwait : WaitsWhole step clock) (hs : tickFlow step clock n = some s) : s.Paced step := by
  induction n generalizing s with
  | zero =>
    cases hs
    exact ⟨hpos, le_rfl, id⟩
  | succ n ih =>
    obtain ⟨u, hu, hnext⟩ := Option.bind_eq_some_iff.mp hs
    obtain ⟨s', hs', -, hnonneg, hiff⟩ := Tick.next_of_paced hfin (ih hu) (clock (n + 1))
    obtain rfl : s' = s := Option.some.inj (hs'.symm.trans hnext)
    have hdelay := (ih hu).isFinite hfin
    exact ⟨hnonneg, hiff.mpr (hwait n u hu hdelay.ne_infinite),
      fun hstep => whole_tickFlow hstep hs⟩

theorem delaysWithinStep_iff (step : Kotlin.Duration) (clock : Nat → Int64) :
    DelaysWithinStep step clock ↔ .zero ≤ step ∧ WaitsWhole step clock := by
  by_cases hinf : step = .infinite
  · subst hinf
    refine iff_of_true (fun n s hs => ?_) ⟨by decide, fun n s hs hne => ?_⟩
    · rw [delay_of_infinite hs]
      decide
    · exact absurd (delay_of_infinite hs) hne
  · constructor
    · intro h
      have hpos : .zero ≤ step := (h 0 _ rfl).1
      have hfin := Kotlin.Duration.isFinite_of_nonneg hpos hinf
      refine ⟨hpos, fun n s hs _ => ?_⟩
      obtain ⟨s', hs', -, -, hiff⟩ := Tick.next_of_paced hfin (h.paced hs) (clock (n + 1))
      exact hiff.mp (h (n + 1) s' ((tickFlow_succ hs).trans hs')).2
    · rintro ⟨hpos, hwait⟩ n s hs
      have hfin := Kotlin.Duration.isFinite_of_nonneg hpos hinf
      have hpaced := paced_of_waitsWhole hpos hfin hwait hs
      exact ⟨hpaced.nonneg, hpaced.le⟩

end Run

/-! ## The readings alone -/

section Readings

variable {step : Kotlin.Duration} {clock : Nat → Int64} {n : Nat} {s s' : Tick} {now : Int64}

/-- For steps up to 146 years the delay is exact. -/
theorem nanos_rest {excess rest : Kotlin.Duration} (hpos : 0 ≤ step.nanos)
    (hstep : step.nanos ≤ maxNanosInMillis * nanosInMillis) (hexcess : 0 ≤ excess.nanos)
    (hrest : step.minus excess = some rest) :
    (rest.coerceAtLeast .zero).nanos = max 0 (step.nanos - excess.nanos) := by
  have hfin := Kotlin.Duration.isFinite_of_small hpos hstep
  have hsign := Kotlin.Duration.minus_nonneg_iff hrest (.inl hfin)
  rw [Kotlin.Duration.nanos_coerceAtLeast, nanos_zero, max_comm]
  by_cases hle : excess.nanos ≤ step.nanos
  · have hexact := Kotlin.Duration.minus_exact_or_large hrest (hle.trans hstep)
      (Kotlin.Duration.isFinite_of_le hfin hexcess hle) hle
    have hrest' : rest.nanos = step.nanos - excess.nanos := hexact.resolve_right (by omega)
    rw [hrest']
  · rw [max_eq_left (by omega), max_eq_left (by omega)]

/-- For steps up to 146 years the next delay is exact, if the clock shows the whole delay. -/
theorem Tick.nanos_next (hstep : step.nanos ≤ maxNanosInMillis * nanosInMillis)
    (hs : s.Paced step) (hwait : s.delay ≤ s.waited now) (hnext : s.next step now = some s') :
    s'.delay.nanos =
      max 0 (s.delay.nanos + step.nanos - (now - s.lastTick).toInt * nanosInMillis) := by
  obtain ⟨-, excess, rest, hexcess, hrest, rfl⟩ := next_eq_some hnext
  have hdelay := Kotlin.Duration.isFinite_of_small hs.nonneg (hs.le.trans hstep)
  have hsign := (Kotlin.Duration.minus_nonneg_iff hexcess (.inr hdelay)).mpr hwait
  rw [nanos_rest (hs.nonneg.trans hs.le) hstep hsign hrest]
  -- an excess that is not exact is above `step`, and so is the true one
  have hexact := Kotlin.Duration.minus_exact_or_large hexcess (hs.le.trans hstep) hdelay hwait
  have hwaited := Kotlin.Duration.nanos_ofMillis_of_nonneg (q := (now - s.lastTick).toInt)
    (hs.nonneg.trans hwait)
  have hnonneg := hs.nonneg
  have hle := hs.le
  unfold waited at hexact
  unfold maxNanosInMillis at hstep hexact
  unfold maxMillis at hwaited
  unfold nanosInMillis at *
  omega

/-- The time since the first reading, in milliseconds, as the differences of the readings add up. -/
def elapsed (clock : Nat → Int64) : Nat → Int
  | 0 => 0
  | n + 1 => elapsed clock n + (clock (n + 1) - clock n).toInt

theorem lastTick_tickFlow (hs : tickFlow step clock n = some s) : s.lastTick = clock n := by
  cases n with
  | zero =>
    cases hs
    rfl
  | succ n =>
    obtain ⟨u, -, hnext⟩ := Option.bind_eq_some_iff.mp hs
    obtain ⟨-, excess, rest, -, -, rfl⟩ := Tick.next_eq_some hnext
    rfl

/-- The time since the first reading, in nanoseconds. -/
def elapsedNanos (clock : Nat → Int64) (n : Nat) : Int := elapsed clock n * nanosInMillis

theorem elapsedNanos_succ (clock : Nat → Int64) (n : Nat) :
    elapsedNanos clock (n + 1) - elapsedNanos clock n =
      (clock (n + 1) - clock n).toInt * nanosInMillis := by
  unfold elapsedNanos
  rw [elapsed, Int.add_mul]
  omega

/-- The clock shows the whole delay iff the debt is within `step` after it. -/
theorem debt_succ_le_iff (hpos : 0 ≤ step.nanos) (hfin : s.delay.IsFinite)
    (hs : tickFlow step clock n = some s)
    (hdelay : s.delay.nanos = debt step.nanos (elapsedNanos clock) n) :
    debt step.nanos (elapsedNanos clock) (n + 1) ≤ step.nanos ↔
      s.delay ≤ s.waited (clock (n + 1)) := by
  rw [debt, elapsedNanos_succ, ← hdelay, Tick.waited, lastTick_tickFlow hs,
    Kotlin.Duration.le_ofMillis_iff hfin, max_le_iff]
  omega

/-- **The delays are a debt** that grows by `step` each round and is paid off by the clock, as long
as it stays within `step`. -/
theorem nanos_tickFlow (hpos : 0 ≤ step.nanos)
    (hstep : step.nanos ≤ maxNanosInMillis * nanosInMillis)
    (hdebt : ∀ m ≤ n, debt step.nanos (elapsedNanos clock) m ≤ step.nanos) :
    ∃ s, tickFlow step clock n = some s ∧ s.Paced step ∧
      s.delay.nanos = debt step.nanos (elapsedNanos clock) n := by
  have hfin := Kotlin.Duration.isFinite_of_small hpos hstep
  induction n with
  | zero => exact ⟨_, rfl, ⟨hpos, le_rfl, id⟩, rfl⟩
  | succ n ih =>
    obtain ⟨s, hs, hpaced, hdelay⟩ := ih fun m hm => hdebt m (by omega)
    have hdelayFin := hpaced.isFinite hfin
    have hwait := (debt_succ_le_iff hpos hdelayFin hs hdelay).mp (hdebt (n + 1) le_rfl)
    obtain ⟨s', hs', -, hnonneg, hiff⟩ := Tick.next_of_paced hfin hpaced (clock (n + 1))
    have hflow := (tickFlow_succ hs).trans hs'
    refine ⟨s', hflow, ⟨hnonneg, hiff.mpr hwait, fun h => whole_tickFlow h hflow⟩, ?_⟩
    rw [Tick.nanos_next hstep hpaced hwait hs', hdelay, lastTick_tickFlow hs, debt,
      elapsedNanos_succ]

theorem waitsWhole_iff_debt (hpos : 0 ≤ step.nanos)
    (hstep : step.nanos ≤ maxNanosInMillis * nanosInMillis) :
    WaitsWhole step clock ↔ ∀ n, debt step.nanos (elapsedNanos clock) n ≤ step.nanos := by
  have hfin := Kotlin.Duration.isFinite_of_small hpos hstep
  constructor
  · intro hwait n
    induction n using Nat.strong_induction_on with
    | _ n ih =>
      cases n with
      | zero => exact le_rfl
      | succ n =>
        obtain ⟨s, hs, hpaced, hdelay⟩ := nanos_tickFlow (n := n) hpos hstep fun m hm =>
          ih m (by omega)
        have hdelayFin := hpaced.isFinite hfin
        exact (debt_succ_le_iff hpos hdelayFin hs hdelay).mpr (hwait n s hs hdelayFin.ne_infinite)
  · intro hdebt n s hs hne
    obtain ⟨u, hu, hpaced, hdelay⟩ := nanos_tickFlow (n := n) hpos hstep fun m _ => hdebt m
    obtain rfl : u = s := Option.some.inj (hu.symm.trans hs)
    have hdelayFin := hpaced.isFinite hfin
    exact (debt_succ_le_iff hpos hdelayFin hs hdelay).mp (hdebt (n + 1))

end Readings

/-! ## Waits that overshoot -/

/-- The wait in the state `s` ends with the reading `now`, and overshoots the delay by `e`, which is
at most `step`. Beyond 146 years durations are rounded and may be infinite: there `e` has to be what
the code measures, too. -/
structure Tick.Overshoots (step : Kotlin.Duration) (s : Tick) (now : Int64) (e : Kotlin.Duration) :
    Prop where
  late : now.toInt * nanosInMillis =
    s.lastTick.toInt * nanosInMillis + s.delay.nanos + e.nanos
  nonneg : .zero ≤ e
  le : e ≤ step
  measured : step.nanos ≤ maxNanosInMillis * nanosInMillis ∨ s.excessDelay now = some e

section Overshoot

variable {step e : Kotlin.Duration} {s : Tick} {now : Int64}

/-- A duration within `step` is exact where `step` is: in nanoseconds or of whole milliseconds. -/
theorem isInNanos_or_whole {d : Kotlin.Duration} (hpos : 0 ≤ d.nanos) (hle : d.nanos ≤ step.nanos) :
    d.IsInNanos ∨ nanosInMillis ∣ step.nanos := by
  rcases step.stored with hnanos | hmillis
  · refine .inl ⟨?_, hle.trans hnanos.2⟩
    unfold maxNanos
    omega
  · exact .inr hmillis.1

/-- The difference of two readings that are less than 2^63 apart does not wrap around. -/
theorem toInt_sub_of_lt {a b : Int64} (hlow : -9223372036854775808 ≤ b.toInt - a.toInt)
    (hhigh : b.toInt - a.toInt < 9223372036854775808) : (b - a).toInt = b.toInt - a.toInt := by
  rw [Int64.toInt_sub]
  exact Int.bmod_eq_of_le hlow hhigh

/-- For steps up to 146 years the clock shows the delay and the overshoot. -/
theorem Tick.Overshoots.nanos_waited (hs : s.Paced step) (h : s.Overshoots step now e)
    (hsmall : step.nanos ≤ maxNanosInMillis * nanosInMillis) :
    (s.waited now).nanos = s.delay.nanos + e.nanos := by
  have he : 0 ≤ e.nanos := h.nonneg
  have he' : e.nanos ≤ step.nanos := h.le
  have hd := hs.nonneg
  have hd' := hs.le
  have hlate := h.late
  have hbound : 0 ≤ now.toInt - s.lastTick.toInt ∧ now.toInt - s.lastTick.toInt ≤ maxMillis := by
    unfold maxMillis
    unfold maxNanosInMillis at hsmall
    unfold nanosInMillis at *
    omega
  unfold maxMillis at hbound
  unfold waited
  rw [toInt_sub_of_lt (by omega) (by omega),
    Kotlin.Duration.ofMillis_nanos (by unfold maxMillis; omega) hbound.2, Int.sub_mul]
  omega

/-- The code measures the overshoot. -/
theorem Tick.Overshoots.excessDelay_eq (hstep : step.IsFinite) (hs : s.Paced step)
    (h : s.Overshoots step now e) : s.excessDelay now = some e := by
  rcases h.measured with hsmall | hmeasured
  · have hdelay := hs.isFinite hstep
    obtain ⟨excess, hexcess⟩ := Kotlin.Duration.exists_minus (a := s.waited now) (.inr hdelay)
    have hwaited := h.nanos_waited hs hsmall
    have he : 0 ≤ e.nanos := h.nonneg
    have he' : e.nanos ≤ step.nanos := h.le
    have hle : s.delay ≤ s.waited now := Kotlin.Duration.le_def.mpr (by omega)
    have hexact :=
      Kotlin.Duration.minus_exact_or_large hexcess (hs.le.trans hsmall) hdelay hle
    have hnanos : excess.nanos = e.nanos := by omega
    rw [← Kotlin.Duration.ext hnanos]
    exact hexcess
  · exact hmeasured

/-- **One round with an overshoot**: all of it is taken off the next delay. -/
theorem Tick.Overshoots.next (hstep : step.IsFinite) (hs : s.Paced step)
    (h : s.Overshoots step now e) :
    ∃ s', s.next step now = some s' ∧ s'.Paced step ∧ s'.lastTick = now ∧
      s'.delay.nanos = step.nanos - e.nanos := by
  have hdelay := hs.isFinite hstep
  have he := Kotlin.Duration.isFinite_of_le hstep h.nonneg h.le
  obtain ⟨excess, rest, hexcess, hrest, hnext⟩ := exists_next hstep hdelay now
  obtain rfl : excess = e := Option.some.inj (hexcess.symm.trans (h.excessDelay_eq hstep hs))
  have hewhole : nanosInMillis ∣ step.nanos → nanosInMillis ∣ excess.nanos := fun hdvd =>
    Kotlin.Duration.dvd_minus hexcess (Int.dvd_mul_left _ _) (hs.whole hdvd)
  have hnonneg := (Kotlin.Duration.minus_nonneg_iff hrest (.inl hstep)).mpr h.le
  have hle := (Kotlin.Duration.minus_le_iff hrest hstep (hs.nonneg.trans hs.le) hewhole).mpr
    h.nonneg
  obtain ⟨-, hexact⟩ := Kotlin.Duration.minus_exact hrest he
    (Kotlin.Duration.isFinite_of_le hstep hnonneg hle)
    ((isInNanos_or_whole hnonneg hle).imp id fun hdvd => ⟨hdvd, hewhole hdvd⟩)
  have hcoerce : (rest.coerceAtLeast .zero).nanos = rest.nanos := by
    rw [Kotlin.Duration.nanos_coerceAtLeast, nanos_zero, max_eq_left hnonneg]
  refine ⟨_, hnext, ⟨?_, ?_, fun hdvd => whole_next hdvd (hs.whole hdvd) hnext⟩, rfl, ?_⟩
  · exact hcoerce ▸ hnonneg
  · exact hcoerce ▸ hle
  · exact hcoerce.trans hexact

end Overshoot

/-! ## The theorems -/

/-- An infinite first delay does not overshoot. -/
theorem Tick.Overshoots.ne_infinite {step e : Kotlin.Duration} {last now : Int64}
    (h : Tick.Overshoots step ⟨last, step⟩ now e) : step ≠ .infinite := by
  rintro rfl
  rcases h.measured with hsmall | hmeasured
  · exact absurd hsmall (by decide)
  · exact absurd (Kotlin.Duration.nanos_minus_infinite hmeasured) (not_lt.mpr h.nonneg)

/-- The tick `n + 1` after waits that overshoot by `e 0`, …, `e n`. -/
theorem tickFlow_of_overshoots {step : Kotlin.Duration} {clock : Nat → Int64}
    {e : Nat → Kotlin.Duration} {n : Nat}
    (h : ∀ i ≤ n, ∀ s, tickFlow step clock i = some s →
      s.Overshoots step (clock (i + 1)) (e i)) :
    ∃ s, tickFlow step clock (n + 1) = some s ∧ s.Paced step ∧ s.lastTick = clock (n + 1) ∧
      s.delay.nanos = step.nanos - (e n).nanos ∧
      (clock (n + 1)).toInt * nanosInMillis =
        (clock 0).toInt * nanosInMillis + (n + 1) * step.nanos + (e n).nanos := by
  have hfirst := h 0 (Nat.zero_le _) _ rfl
  have hpos : 0 ≤ step.nanos := hfirst.nonneg.trans hfirst.le
  have hstep : step.IsFinite := Kotlin.Duration.isFinite_of_nonneg hpos hfirst.ne_infinite
  -- the delay is `step` less the last overshoot, so the overshoots cancel one after another
  induction n with
  | zero =>
    have hpaced : Tick.Paced step ⟨clock 0, step⟩ := ⟨hpos, le_rfl, id⟩
    obtain ⟨s, hs, hsp, hlast, hdelay⟩ := hfirst.next hstep hpaced
    refine ⟨s, (tickFlow_succ rfl).trans hs, hsp, hlast, hdelay, ?_⟩
    rw [hfirst.late]
    dsimp only
    omega
  | succ n ih =>
    obtain ⟨s, hs, hpaced, hlast, hdelay, htime⟩ := ih fun i hi => h i (by omega)
    have hover := h (n + 1) le_rfl s hs
    obtain ⟨s', hs', hpaced', hlast', hdelay'⟩ := hover.next hstep hpaced
    refine ⟨s', (tickFlow_succ hs).trans hs', hpaced', hlast', hdelay', ?_⟩
    rw [hover.late, hlast, htime, hdelay]
    push_cast
    ring

/-- **The ticks do not drift.** If no wait overshoots by more than `step`, the tick `n + 1` comes
`n + 1` steps after the first one, late by the last overshoot only. -/
theorem ticks_do_not_drift {step : Kotlin.Duration} {clock : Nat → Int64}
    {e : Nat → Kotlin.Duration} {n : Nat}
    (h : ∀ i ≤ n, ∀ s, tickFlow step clock i = some s →
      s.Overshoots step (clock (i + 1)) (e i)) :
    ∃ s, tickFlow step clock (n + 1) = some s ∧
      s.lastTick.toInt * nanosInMillis =
        (clock 0).toInt * nanosInMillis + (n + 1) * step.nanos + (e n).nanos := by
  obtain ⟨s, hs, -, hlast, -, htime⟩ := tickFlow_of_overshoots h
  exact ⟨s, hs, hlast ▸ htime⟩

/-- A clock whose readings are the given ones, and zero after them. -/
def readings (l : List Int64) (n : Nat) : Int64 := l.getD n 0

/-- With a step of a second, an overshoot of 300 ms and one of 100 ms, the second tick is late by
100 ms. -/
theorem ticks_do_not_drift_two :
    ∃ s, tickFlow (.ofMillis 1000) (readings [0, 1300, 2100]) 2 = some s ∧
      s.lastTick.toInt * nanosInMillis =
        0 * nanosInMillis + 2 * (1000 * nanosInMillis) + 100 * nanosInMillis := by
  have hfirst : tickFlow (.ofMillis 1000) (readings [0, 1300, 2100]) 1 =
      some ⟨1300, .ofMillis 700⟩ := by decide
  refine ticks_do_not_drift (n := 1) (e := fun i => .ofMillis ([300, 100].getD i 0)) ?_
  intro i hi s hs
  match i, hi with
  | 0, _ =>
    cases hs
    exact ⟨by decide, by decide, by decide, by decide⟩
  | 1, _ =>
    rw [hfirst] at hs
    cases hs
    exact ⟨by decide, by decide, by decide, by decide⟩

/-- **The delays are within `step`** iff `step` is not negative and the clock shows every wait to be
as long as was requested. For steps up to 146 years, this is so iff `n` waits take at least `n`
steps from the first reading on, and at least `n - 1` steps from any later one. -/
theorem delays_within_step_iff (step : Kotlin.Duration) (clock : Nat → Int64) :
    (DelaysWithinStep step clock ↔ .zero ≤ step ∧ WaitsWhole step clock) ∧
    (step.nanos ≤ maxNanosInMillis * nanosInMillis →
      (DelaysWithinStep step clock ↔ .zero ≤ step ∧
        (∀ n : Nat, n * step.nanos ≤ elapsedNanos clock n) ∧
        ∀ k n : Nat, 0 < k →
          n * step.nanos ≤ elapsedNanos clock (k + n + 1) - elapsedNanos clock k)) := by
  refine ⟨delaysWithinStep_iff step clock, fun hstep => ?_⟩
  rw [delaysWithinStep_iff]
  refine and_congr_right fun hpos => ?_
  have hzero : elapsedNanos clock 0 = 0 := rfl
  rw [waitsWhole_iff_debt hpos hstep, debt_le_step_iff hpos]
  simp only [nsmul_eq_mul, hzero, sub_zero]

/-- A clock that goes with the step gives delays within it. -/
theorem delays_within_step_steady :
    DelaysWithinStep (.ofMillis 1000) fun n => Int64.ofNat (1000 * n) := by
  have helapsed : ∀ n, elapsed (fun n => Int64.ofNat (1000 * n)) n = 1000 * n := by
    intro n
    induction n with
    | zero => rfl
    | succ n ih =>
      have hwait : Int64.ofNat (1000 * (n + 1)) - Int64.ofNat (1000 * n) = 1000 := by
        rw [Nat.mul_succ, Nat.add_comm, Int64.ofNat_add, Int64.add_sub_cancel]
        rfl
      rw [elapsed, ih, hwait]
      change 1000 * (n : Int) + 1000 = 1000 * ((n + 1 : Nat) : Int)
      omega
  refine ((delays_within_step_iff _ _).2 (by decide)).mpr ⟨by decide, fun n => ?_, fun k n hk => ?_⟩
  · unfold elapsedNanos
    rw [helapsed]
    change (n : Int) * (1000 * nanosInMillis) ≤ _
    unfold nanosInMillis
    omega
  · unfold elapsedNanos
    rw [helapsed, helapsed]
    change (n : Int) * (1000 * nanosInMillis) ≤ _
    unfold nanosInMillis
    omega

/-- The clock is set back by an hour during the first wait: the second delay is an hour and a
second, with a step of a second. -/
theorem clock_set_back_stalls :
    tickFlow (.ofMillis 1000) (readings [3600000, 1000]) 1 =
        some ⟨1000, .ofMillis 3601000⟩ ∧
      ¬ DelaysWithinStep (.ofMillis 1000) (readings [3600000, 1000]) := by
  have hdelay : tickFlow (.ofMillis 1000) (readings [3600000, 1000]) 1 =
      some ⟨1000, .ofMillis 3601000⟩ := by decide
  exact ⟨hdelay, fun h => absurd (h 1 _ hdelay).2 (by decide)⟩

end Protun.Android
