import Mathlib.Order.Lattice
import Mathlib.Order.Basic

/-!
# Durations of Kotlin (`kotlin.time.Duration`)

A `Duration` is a number of nanoseconds up to 146 years (`maxNanos`), a number of milliseconds
beyond, and infinite from `maxMillis` on. A sum is exact as long as it stays in the first range, and
its part below a millisecond is dropped outside of it.

* A duration is its value in nanoseconds, with the proof that it can be stored. The infinite
  durations are the values `± maxMillis` milliseconds, as in the library.
* `minus` fails on infinite durations of the same sign, where the library throws.
* `IsFinite` of the values of a computation is what makes it exact: `minus_exact` where the result
  is in the first range, `minus_exact_of_dvd` for whole milliseconds.
* `minus_nonneg_iff`: rounding and saturation do not change the sign of a difference.
-/

namespace Protun.Kotlin

/-- `NANOS_IN_MILLIS`. -/
def nanosInMillis : Int := 1000000

/-- `MAX_NANOS`. -/
def maxNanos : Int := 4611686018426999999

/-- `MAX_NANOS_IN_MILLIS`. -/
def maxNanosInMillis : Int := 4611686018426

/-- `MAX_MILLIS`. -/
def maxMillis : Int := 4611686018427387903

/-- `Duration`. -/
structure Duration where
  /-- The value in nanoseconds. -/
  nanos : Int
  /-- It is stored in nanoseconds, or in milliseconds. -/
  stored : (-maxNanos ≤ nanos ∧ nanos ≤ maxNanos) ∨
    (nanosInMillis ∣ nanos ∧ -(maxMillis * nanosInMillis) ≤ nanos ∧
      nanos ≤ maxMillis * nanosInMillis)
  deriving DecidableEq

namespace Duration

@[ext] theorem ext {a b : Duration} (h : a.nanos = b.nanos) : a = b := by
  cases a
  cases b
  cases h
  rfl

/-- `compareTo`. -/
instance : LinearOrder Duration :=
  LinearOrder.lift' nanos fun _ _ => ext

theorem le_def {a b : Duration} : a ≤ b ↔ a.nanos ≤ b.nanos := Iff.rfl

theorem lt_def {a b : Duration} : a < b ↔ a.nanos < b.nanos := Iff.rfl

/-- The value is stored in nanoseconds. -/
def IsInNanos (a : Duration) : Prop := -maxNanos ≤ a.nanos ∧ a.nanos ≤ maxNanos

instance (a : Duration) : Decidable a.IsInNanos :=
  inferInstanceAs (Decidable (-maxNanos ≤ a.nanos ∧ a.nanos ≤ maxNanos))

/-- `Int.milliseconds`, `Long.milliseconds` and `durationOfMillisNormalized`: the value is coerced
into the range that can be stored. -/
def ofMillis (millis : Int) : Duration where
  nanos := max (-maxMillis) (min millis maxMillis) * nanosInMillis
  stored := by
    unfold maxMillis nanosInMillis
    exact .inr ⟨Int.dvd_mul_left _ _, by omega, by omega⟩

/-- `Duration.ZERO`. -/
def zero : Duration := ofMillis 0

/-- `Duration.INFINITE`. -/
def infinite : Duration := ofMillis maxMillis

/-- `isInfinite` is false. -/
def IsFinite (a : Duration) : Prop :=
  -(maxMillis * nanosInMillis) < a.nanos ∧ a.nanos < maxMillis * nanosInMillis

instance (a : Duration) : Decidable a.IsFinite :=
  inferInstanceAs (Decidable (-(maxMillis * nanosInMillis) < a.nanos ∧
    a.nanos < maxMillis * nanosInMillis))

theorem IsFinite.ne_infinite {a : Duration} (h : a.IsFinite) : a ≠ infinite := by
  rintro rfl
  exact absurd h.2 (lt_irrefl _)

theorem nanos_of_not_isFinite {a : Duration} (h : ¬ a.IsFinite) :
    a.nanos = maxMillis * nanosInMillis ∨ a.nanos = -(maxMillis * nanosInMillis) := by
  have hstored := a.stored
  unfold IsFinite at h
  unfold maxNanos at hstored
  unfold maxMillis nanosInMillis at *
  omega

theorem isFinite_of_nonneg {a : Duration} (ha : 0 ≤ a.nanos) (h : a ≠ infinite) : a.IsFinite := by
  by_contra hfin
  rcases nanos_of_not_isFinite hfin with hinf | hinf
  · exact h (ext hinf)
  · rw [hinf] at ha
    exact absurd ha (by decide)

/-- What is below 146 years is finite. -/
theorem isFinite_of_small {a : Duration} (ha : 0 ≤ a.nanos)
    (h : a.nanos ≤ maxNanosInMillis * nanosInMillis) : a.IsFinite := by
  refine isFinite_of_nonneg ha ?_
  rintro rfl
  exact absurd h (by decide)

/-- `nanosToMillis`. -/
def nanosToMillis (nanos : Int) : Int := nanos.tdiv nanosInMillis

/-- `durationOfNanosNormalized`. -/
def ofNanosNormalized (nanos : Int) : Duration :=
  if h : -maxNanos ≤ nanos ∧ nanos ≤ maxNanos then ⟨nanos, .inl h⟩
  else ofMillis (nanosToMillis nanos)

/-- `addValuesMixedRanges`. -/
def addValuesMixedRanges (thisMillis otherNanos : Int) : Duration :=
  let otherMillis := nanosToMillis otherNanos
  let resultMillis := thisMillis + otherMillis
  if -maxNanosInMillis ≤ resultMillis ∧ resultMillis ≤ maxNanosInMillis then
    let otherNanoRemainder := otherNanos - otherMillis * nanosInMillis
    ofNanosNormalized (resultMillis * nanosInMillis + otherNanoRemainder)
  else ofMillis resultMillis

/-- `unaryMinus`. -/
def neg (a : Duration) : Duration where
  nanos := -a.nanos
  stored := by
    rcases a.stored with h | h
    · exact .inl (by omega)
    · exact .inr ⟨(Int.dvd_neg).mpr h.1, by omega, by omega⟩

/-- `plus`, on finite durations. -/
def plusFinite (a b : Duration) : Duration :=
  if a.IsInNanos then
    if b.IsInNanos then ofNanosNormalized (a.nanos + b.nanos)
    else addValuesMixedRanges (b.nanos / nanosInMillis) a.nanos
  else
    if b.IsInNanos then addValuesMixedRanges (a.nanos / nanosInMillis) b.nanos
    else ofMillis (a.nanos / nanosInMillis + b.nanos / nanosInMillis)

/-- `plus`; `none` where it throws an `IllegalArgumentException`. -/
def plus (a b : Duration) : Option Duration :=
  if a.IsFinite then
    if b.IsFinite then some (plusFinite a b) else some b
  else if b.IsFinite ∨ a = b then some a
  else none

/-- `minus`. -/
def minus (a b : Duration) : Option Duration := a.plus b.neg

/-- `coerceAtLeast`. -/
def coerceAtLeast (a minimum : Duration) : Duration := if a < minimum then minimum else a

theorem nanos_coerceAtLeast (a minimum : Duration) :
    (a.coerceAtLeast minimum).nanos = max a.nanos minimum.nanos := by
  unfold coerceAtLeast
  split
  · rename_i h
    exact (max_eq_right (le_of_lt (lt_def.mp h))).symm
  · rename_i h
    exact (max_eq_left (not_lt.mp (mt lt_def.mpr h))).symm

/-! ## Sums of finite durations -/

theorem nanosToMillis_cases (n : Int) :
    (0 ≤ n ∧ nanosToMillis n * nanosInMillis ≤ n ∧
        n < nanosToMillis n * nanosInMillis + nanosInMillis) ∨
      (n < 0 ∧ n ≤ nanosToMillis n * nanosInMillis ∧
        nanosToMillis n * nanosInMillis - nanosInMillis < n) := by
  unfold nanosToMillis nanosInMillis
  by_cases hn : 0 ≤ n
  · rw [Int.tdiv_eq_ediv_of_nonneg hn]
    omega
  · have hneg : n.tdiv 1000000 = -((-n) / 1000000) := by
      rw [← Int.tdiv_eq_ediv_of_nonneg (by omega), Int.neg_tdiv, Int.neg_neg]
    rw [hneg]
    omega

/-- A value that is not stored in nanoseconds is stored in milliseconds. -/
theorem div_mul_of_not_isInNanos {a : Duration} (h : ¬ a.IsInNanos) :
    a.nanos / nanosInMillis * nanosInMillis = a.nanos :=
  Int.ediv_mul_cancel ((a.stored.resolve_left h).1)

/-- `q` milliseconds are the sum `total`, up to the part below a millisecond, and too many to be
stored in nanoseconds. -/
structure Rounds (total q : Int) : Prop where
  large : q < -maxNanosInMillis ∨ maxNanosInMillis < q
  near : q * nanosInMillis - nanosInMillis < total ∧ total < q * nanosInMillis + nanosInMillis

theorem ofNanosNormalized_cases (n : Int) :
    (ofNanosNormalized n).nanos = n ∨
      ∃ q, ofNanosNormalized n = ofMillis q ∧ Rounds n q := by
  unfold ofNanosNormalized
  split
  · exact .inl rfl
  · rename_i h
    have hq := nanosToMillis_cases n
    refine .inr ⟨nanosToMillis n, rfl, ?_, ?_⟩
    · unfold maxNanos at h
      unfold maxNanosInMillis
      unfold nanosInMillis at hq
      omega
    · unfold nanosInMillis at hq ⊢
      omega

theorem addValuesMixedRanges_cases (m n : Int) :
    (addValuesMixedRanges m n).nanos = m * nanosInMillis + n ∨
      ∃ q, addValuesMixedRanges m n = ofMillis q ∧ Rounds (m * nanosInMillis + n) q := by
  unfold addValuesMixedRanges
  have hq := nanosToMillis_cases n
  dsimp only
  split
  · have hsum : (m + nanosToMillis n) * nanosInMillis +
        (n - nanosToMillis n * nanosInMillis) = m * nanosInMillis + n := by
      unfold nanosInMillis
      omega
    rw [hsum]
    exact ofNanosNormalized_cases _
  · rename_i h
    refine .inr ⟨m + nanosToMillis n, rfl, by omega, ?_⟩
    unfold nanosInMillis at hq ⊢
    omega

theorem Rounds.eq_of_dvd {total q : Int} (h : Rounds total q) (hdvd : nanosInMillis ∣ total) :
    q * nanosInMillis = total := by
  obtain ⟨k, rfl⟩ := hdvd
  have hnear := h.near
  unfold nanosInMillis at *
  omega

theorem ofMillis_nanos {q : Int} (hlow : -maxMillis ≤ q) (hhigh : q ≤ maxMillis) :
    (ofMillis q).nanos = q * nanosInMillis := by
  unfold ofMillis
  dsimp only
  rw [min_eq_left hhigh, max_eq_right hlow]

theorem nanos_of_isFinite_ofMillis {q : Int} (h : (ofMillis q).IsFinite) :
    (ofMillis q).nanos = q * nanosInMillis := by
  unfold IsFinite ofMillis at *
  unfold maxMillis nanosInMillis at *
  dsimp only at *
  omega

/-- A number of milliseconds is coerced to infinity if it is too large. -/
theorem nanos_ofMillis_of_nonneg {q : Int} (h : 0 ≤ (ofMillis q).nanos) :
    (ofMillis q).nanos = q * nanosInMillis ∨
      ((ofMillis q).nanos = maxMillis * nanosInMillis ∧ maxMillis ≤ q) := by
  unfold ofMillis maxMillis nanosInMillis at *
  dsimp only at *
  omega

theorem le_ofMillis_iff {a : Duration} (ha : a.IsFinite) (q : Int) :
    a ≤ ofMillis q ↔ a.nanos ≤ q * nanosInMillis := by
  rw [le_def]
  unfold IsFinite at ha
  unfold ofMillis maxMillis nanosInMillis at *
  dsimp only
  omega

/-- A sum that is rounded is beyond the range of the nanoseconds, or less than a millisecond short
of its end, and what it is rounded to is beyond it. -/
theorem Rounds.beyond {total q : Int} (h : Rounds total q) :
    (maxNanosInMillis * nanosInMillis < total ∧ maxNanos < (ofMillis q).nanos) ∨
      (total < -(maxNanosInMillis * nanosInMillis) ∧ (ofMillis q).nanos < -maxNanos) := by
  obtain ⟨hlarge, hnear⟩ := h
  unfold ofMillis
  unfold maxNanosInMillis at *
  unfold nanosInMillis at *
  unfold maxNanos maxMillis
  dsimp only
  omega

/-- **A sum is exact, or it is large and rounded to a millisecond.** -/
theorem plusFinite_cases (a b : Duration) :
    (plusFinite a b).nanos = a.nanos + b.nanos ∨
      ∃ q, plusFinite a b = ofMillis q ∧ Rounds (a.nanos + b.nanos) q := by
  unfold plusFinite
  by_cases ha : a.IsInNanos
  · rw [if_pos ha]
    by_cases hb : b.IsInNanos
    · rw [if_pos hb]
      exact ofNanosNormalized_cases _
    · rw [if_neg hb, Int.add_comm, ← div_mul_of_not_isInNanos hb]
      have hcases := addValuesMixedRanges_cases (b.nanos / nanosInMillis) a.nanos
      rwa [div_mul_of_not_isInNanos hb] at hcases ⊢
  · rw [if_neg ha]
    by_cases hb : b.IsInNanos
    · rw [if_pos hb]
      have hcases := addValuesMixedRanges_cases (a.nanos / nanosInMillis) b.nanos
      rwa [div_mul_of_not_isInNanos ha] at hcases
    · rw [if_neg hb]
      have ha' := div_mul_of_not_isInNanos ha
      have hb' := div_mul_of_not_isInNanos hb
      by_cases hlarge : a.nanos / nanosInMillis + b.nanos / nanosInMillis < -maxNanosInMillis ∨
          maxNanosInMillis < a.nanos / nanosInMillis + b.nanos / nanosInMillis
      · refine .inr ⟨_, rfl, hlarge, ?_⟩
        rw [Int.add_mul, ha', hb']
        unfold nanosInMillis
        omega
      · refine .inl ?_
        rw [ofMillis_nanos (by unfold maxNanosInMillis at hlarge; unfold maxMillis; omega)
          (by unfold maxNanosInMillis at hlarge; unfold maxMillis; omega), Int.add_mul, ha', hb']

section Sum

variable {a b : Duration}

theorem plusFinite_of_isInNanos (ha : a.IsInNanos) (hb : b.IsInNanos)
    (hsum : -maxNanos ≤ a.nanos + b.nanos ∧ a.nanos + b.nanos ≤ maxNanos) :
    (plusFinite a b).nanos = a.nanos + b.nanos := by
  unfold plusFinite ofNanosNormalized
  rw [if_pos ha, if_pos hb, dif_pos hsum]

theorem plusFinite_exact (h : (plusFinite a b).IsInNanos) :
    (plusFinite a b).nanos = a.nanos + b.nanos := by
  rcases plusFinite_cases a b with hexact | ⟨q, hq, hround⟩
  · exact hexact
  · rw [hq] at h
    unfold IsInNanos at h
    rcases hround.beyond with ⟨-, hbeyond⟩ | ⟨-, hbeyond⟩ <;> omega

/-- A sum of whole milliseconds is exact, unless it is infinite. -/
theorem plusFinite_exact_of_dvd (ha : nanosInMillis ∣ a.nanos) (hb : nanosInMillis ∣ b.nanos)
    (h : (plusFinite a b).IsFinite) : (plusFinite a b).nanos = a.nanos + b.nanos := by
  rcases plusFinite_cases a b with hexact | ⟨q, hq, hround⟩
  · exact hexact
  · rw [hq] at h ⊢
    rw [nanos_of_isFinite_ofMillis h, hround.eq_of_dvd (Int.dvd_add ha hb)]

theorem plusFinite_nonneg_iff : 0 ≤ (plusFinite a b).nanos ↔ 0 ≤ a.nanos + b.nanos := by
  rcases plusFinite_cases a b with hexact | ⟨q, hq, hround⟩
  · rw [hexact]
  · rw [hq]
    have hbeyond := hround.beyond
    unfold maxNanosInMillis nanosInMillis maxNanos at hbeyond
    omega

/-- What is added to a duration makes it no longer iff it is not positive. No part below a
millisecond is to be lost. -/
theorem plusFinite_le_iff (ha : a.IsFinite) (hpos : 0 ≤ a.nanos)
    (hdvd : nanosInMillis ∣ a.nanos → nanosInMillis ∣ b.nanos) :
    (plusFinite a b).nanos ≤ a.nanos ↔ b.nanos ≤ 0 := by
  rcases plusFinite_cases a b with hexact | ⟨q, hq, hround⟩
  · rw [hexact]
    omega
  · by_cases hin : a.IsInNanos
    · by_cases hb : b.nanos ≤ 0 ∧ b.IsInNanos
      · obtain ⟨hle, hbin⟩ := hb
        have hsum : -maxNanos ≤ a.nanos + b.nanos ∧ a.nanos + b.nanos ≤ maxNanos := by
          unfold IsInNanos at hin hbin
          omega
        rw [plusFinite_of_isInNanos hin hbin hsum]
        omega
      · -- the sum is negative, or above all that is stored in nanoseconds
        have hbeyond := hround.beyond
        rw [hq]
        unfold IsInNanos at hin hb
        unfold maxNanosInMillis nanosInMillis maxNanos at *
        omega
    · have hda := (a.stored.resolve_left hin).1
      have htotal := hround.eq_of_dvd (Int.dvd_add hda (hdvd hda))
      rw [hq]
      unfold IsFinite at ha
      unfold ofMillis
      unfold maxMillis nanosInMillis at *
      dsimp only
      omega

end Sum

/-! ## Differences -/

section Difference

variable {a b r : Duration}

theorem isFinite_neg : a.neg.IsFinite ↔ a.IsFinite := by
  unfold IsFinite Duration.neg
  dsimp only
  omega

theorem isFinite_of_le (hb : b.IsFinite) (ha : 0 ≤ a.nanos) (h : a ≤ b) : a.IsFinite := by
  have hle := le_def.mp h
  unfold IsFinite at *
  unfold maxMillis nanosInMillis at *
  omega

/-- A difference is defined if one of the two is finite. -/
theorem exists_minus (h : a.IsFinite ∨ b.IsFinite) : ∃ r, a.minus b = some r := by
  unfold minus plus
  by_cases ha : a.IsFinite
  · rw [if_pos ha]
    split <;> exact ⟨_, rfl⟩
  · rw [if_neg ha, if_pos (.inl (isFinite_neg.mpr (h.resolve_left ha)))]
    exact ⟨_, rfl⟩

/-- What a difference is. -/
theorem minus_cases (h : a.minus b = some r) :
    (a.IsFinite ∧ b.IsFinite ∧ r = plusFinite a b.neg) ∨ (a.IsFinite ∧ ¬ b.IsFinite ∧ r = b.neg) ∨
      (¬ a.IsFinite ∧ r = a) := by
  unfold minus plus at h
  by_cases ha : a.IsFinite
  · rw [if_pos ha] at h
    by_cases hb : b.IsFinite
    · rw [if_pos (isFinite_neg.mpr hb)] at h
      exact .inl ⟨ha, hb, (Option.some.inj h).symm⟩
    · rw [if_neg (mt isFinite_neg.mp hb)] at h
      exact .inr (.inl ⟨ha, hb, (Option.some.inj h).symm⟩)
  · rw [if_neg ha] at h
    split at h
    · exact .inr (.inr ⟨ha, (Option.some.inj h).symm⟩)
    · cases h

/-- What is left after an infinite duration is taken off is negative. -/
theorem nanos_minus_infinite (h : a.minus infinite = some r) : r.nanos < 0 := by
  have hinf : ¬ infinite.neg.IsFinite := by decide
  have hneg : infinite.neg.nanos < 0 := by decide
  unfold minus plus at h
  by_cases ha : a.IsFinite
  · rw [if_pos ha, if_neg hinf] at h
    exact Option.some.inj h ▸ hneg
  · rw [if_neg ha] at h
    split at h
    · rename_i hsame
      rw [← Option.some.inj h, hsame.resolve_left hinf]
      exact hneg
    · cases h

/-- Whole milliseconds stay whole. -/
theorem dvd_minus (h : a.minus b = some r) (ha : nanosInMillis ∣ a.nanos)
    (hb : nanosInMillis ∣ b.nanos) : nanosInMillis ∣ r.nanos := by
  have hneg : nanosInMillis ∣ b.neg.nanos := Int.dvd_neg.mpr hb
  rcases minus_cases h with ⟨-, -, rfl⟩ | ⟨-, -, rfl⟩ | ⟨-, rfl⟩
  · rcases plusFinite_cases a b.neg with hexact | ⟨q, hq, -⟩
    · rw [hexact]
      exact Int.dvd_add ha hneg
    · rw [hq]
      exact Int.dvd_mul_left _ _
  · exact hneg
  · exact ha

/-- **A finite difference is exact** in the range of the nanoseconds, and between whole
milliseconds. -/
theorem minus_exact (h : a.minus b = some r) (hb : b.IsFinite) (hr : r.IsFinite)
    (hwhole : r.IsInNanos ∨ (nanosInMillis ∣ a.nanos ∧ nanosInMillis ∣ b.nanos)) :
    a.IsFinite ∧ r.nanos = a.nanos - b.nanos := by
  rcases minus_cases h with ⟨ha, -, rfl⟩ | ⟨-, hb', -⟩ | ⟨ha, rfl⟩
  · refine ⟨ha, ?_⟩
    rw [Int.sub_eq_add_neg]
    rcases hwhole with hin | ⟨hda, hdb⟩
    · exact plusFinite_exact hin
    · exact plusFinite_exact_of_dvd hda (Int.dvd_neg.mpr hdb) hr
  · exact absurd hb hb'
  · exact absurd hr ha

/-- **The sign of a difference is right**, rounded, infinite or not. -/
theorem minus_nonneg_iff (h : a.minus b = some r) (hfin : a.IsFinite ∨ b.IsFinite) :
    0 ≤ r.nanos ↔ b.nanos ≤ a.nanos := by
  have hneg : b.neg.nanos = -b.nanos := rfl
  rcases minus_cases h with ⟨-, -, rfl⟩ | ⟨ha, hb, rfl⟩ | ⟨ha, rfl⟩
  · rw [plusFinite_nonneg_iff, hneg]
    omega
  · have hinf := nanos_of_not_isFinite hb
    rw [hneg]
    unfold IsFinite at ha
    unfold maxMillis nanosInMillis at *
    omega
  · have hinf := nanos_of_not_isFinite ha
    have hb := hfin.resolve_left ha
    unfold IsFinite at hb
    unfold maxMillis nanosInMillis at *
    omega

/-- A difference that is not negative is exact, unless it is above the range of the nanoseconds or
just below its end. -/
theorem minus_exact_or_large (h : a.minus b = some r)
    (hb : b.nanos ≤ maxNanosInMillis * nanosInMillis) (hfin : b.IsFinite) (hle : b ≤ a) :
    r.nanos = a.nanos - b.nanos ∨
      (maxNanosInMillis * nanosInMillis < r.nanos ∧
        maxNanosInMillis * nanosInMillis < a.nanos - b.nanos) := by
  have hle' := le_def.mp hle
  have hneg : b.neg.nanos = -b.nanos := rfl
  rcases minus_cases h with ⟨-, -, rfl⟩ | ⟨-, hb', -⟩ | ⟨ha, rfl⟩
  · rcases plusFinite_cases a b.neg with hexact | ⟨q, hq, hround⟩
    · exact .inl hexact
    · refine .inr ?_
      have hbeyond := hround.beyond
      rw [hneg] at hbeyond
      rw [hq]
      unfold maxNanosInMillis nanosInMillis maxNanos at *
      omega
  · exact absurd hfin hb'
  · refine .inr ?_
    have hinf := nanos_of_not_isFinite ha
    unfold IsFinite at hfin
    unfold maxNanosInMillis maxMillis nanosInMillis at *
    omega

/-- What is taken off a duration makes it no longer iff it is not negative. -/
theorem minus_le_iff (h : a.minus b = some r) (ha : a.IsFinite) (hpos : 0 ≤ a.nanos)
    (hdvd : nanosInMillis ∣ a.nanos → nanosInMillis ∣ b.nanos) :
    r.nanos ≤ a.nanos ↔ 0 ≤ b.nanos := by
  have hneg : b.neg.nanos = -b.nanos := rfl
  rcases minus_cases h with ⟨-, hb, rfl⟩ | ⟨-, hb, rfl⟩ | ⟨ha', -⟩
  · rw [plusFinite_le_iff ha hpos fun hda => Int.dvd_neg.mpr (hdvd hda), hneg]
    omega
  · have hinf := nanos_of_not_isFinite hb
    rw [hneg]
    unfold IsFinite at ha
    unfold maxMillis nanosInMillis at *
    omega
  · exact absurd ha ha'

end Difference

end Duration

end Protun.Kotlin
