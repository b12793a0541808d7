import Mathlib.Data.List.MinMax
import Mathlib.Data.List.Sort

/-!
# The first of the least elements

`List.argmin f l` is the first element of `l` with the least key.

* `argmin_eq_some_iff`: it has a greater key before it and no smaller one behind it.
* `findSome?_insertionSort`: after a stable sort, the first element of a kind is the first least of
  its kind, if elements of a kind are sorted by their key.
* **`argmin_mod_iff`**: keys that wrap around at `w` at most once pick the same element iff all of
  them do, or whatever wraps around is still beaten by something that does not (`FairlyWrapped`).
-/

namespace Protun.StableMin

variable {α β κ : Type} [LinearOrder κ]

/-- `m` is the first of the least elements of `l`. -/
def FirstLeast (f : α → κ) (l : List α) (m : α) : Prop :=
  ∃ pre post, l = pre ++ m :: post ∧ (∀ y ∈ pre, f m < f y) ∧ ∀ y ∈ post, f m ≤ f y

theorem firstLeast_cons {f : α → κ} {a : α} {l : List α} {m : α} :
    FirstLeast f (a :: l) m ↔ (a = m ∧ ∀ y ∈ l, f a ≤ f y) ∨ (f m < f a ∧ FirstLeast f l m) := by
  constructor
  · rintro ⟨pre, post, hl, hpre, hpost⟩
    cases pre with
    | nil =>
      obtain ⟨rfl, rfl⟩ := List.cons.inj hl
      exact .inl ⟨rfl, hpost⟩
    | cons b pre =>
      obtain ⟨rfl, rfl⟩ := List.cons.inj hl
      rw [List.forall_mem_cons] at hpre
      exact .inr ⟨hpre.1, pre, post, rfl, hpre.2, hpost⟩
  · rintro (⟨rfl, hle⟩ | ⟨hlt, pre, post, rfl, hpre, hpost⟩)
    · exact ⟨[], l, rfl, by simp, hle⟩
    · exact ⟨a :: pre, post, rfl, List.forall_mem_cons.mpr ⟨hlt, hpre⟩, hpost⟩

theorem argmin_eq_some_iff {f : α → κ} {l : List α} {m : α} :
    l.argmin f = some m ↔
      ∃ pre post, l = pre ++ m :: post ∧ (∀ y ∈ pre, f m < f y) ∧ ∀ y ∈ post, f m ≤ f y := by
  change _ ↔ FirstLeast f l m
  induction l generalizing m with
  | nil => simp [FirstLeast]
  | cons a l ih =>
    rw [firstLeast_cons, ← ih, List.argmin_cons]
    cases hl : l.argmin f with
    | none =>
      have hnil : l = [] := List.argmin_eq_none.mp hl
      simp [hnil]
    | some c =>
      have hleast : ∀ y ∈ l, f c ≤ f y := fun y hy => List.le_of_mem_argmin hy hl
      dsimp only
      by_cases hlt : f c < f a
      · rw [if_pos hlt]
        constructor
        · intro hm
          obtain rfl := Option.some.inj hm
          exact .inr ⟨hlt, rfl⟩
        · rintro (⟨rfl, hle⟩ | ⟨-, hm⟩)
          · exact absurd hlt (not_lt_of_ge (hle c (List.argmin_mem hl)))
          · exact hm
      · rw [if_neg hlt]
        constructor
        · intro hm
          obtain rfl := Option.some.inj hm
          exact .inl ⟨rfl, fun y hy => (le_of_not_gt hlt).trans (hleast y hy)⟩
        · rintro (⟨rfl, -⟩ | ⟨hlt', hm⟩)
          · rfl
          · obtain rfl := Option.some.inj hm
            exact absurd hlt' hlt

/-! ## After a stable sort -/

section Sorted

variable {ι : Type} [LinearOrder ι] {key : α → κ} {g : α → Option β} {f : β → ι}
  (hg : ∀ a a' b b', g a = some b → g a' = some b' → (key a ≤ key a' ↔ f b ≤ f b'))
include hg

/-- An element that is put into a sorted list. -/
theorem findSome?_orderedInsert (a : α) {s : List α} (hs : s.Pairwise fun x y => key x ≤ key y) :
    (s.orderedInsert (fun x y => key x ≤ key y) a).findSome? g =
      match g a, s.findSome? g with
      | none, r => r
      | some b, none => some b
      | some b, some c => if f c < f b then some c else some b := by
  induction s with
  | nil => cases h : g a <;> simp [h]
  | cons c s ih =>
    rw [List.pairwise_cons] at hs
    by_cases hle : key a ≤ key c
    · rw [List.orderedInsert_cons, if_pos hle, List.findSome?_cons]
      cases ha : g a with
      | none => rfl
      | some b =>
        cases hr : (c :: s).findSome? g with
        | none => rfl
        | some b' =>
          -- what is found in the rest comes from an element that is no less than `c`
          obtain ⟨c', hc', hgc'⟩ := List.exists_of_findSome?_eq_some hr
          have hcc' : key c ≤ key c' := by
            rcases List.mem_cons.mp hc' with rfl | hmem
            · exact le_refl _
            · exact hs.1 c' hmem
          have hbb' := (hg a c' b b' ha hgc').mp (hle.trans hcc')
          simp only [if_neg (not_lt_of_ge hbb')]
    · rw [List.orderedInsert_cons, if_neg hle, List.findSome?_cons, List.findSome?_cons]
      cases hc : g c with
      | none => exact ih hs.2
      | some b' =>
        cases ha : g a with
        | none => rfl
        | some b =>
          have hlt : f b' < f b := lt_of_not_ge fun hbb' => hle ((hg a c b b' ha hc).mpr hbb')
          simp only [if_pos hlt]

theorem findSome?_insertionSort (l : List α) :
    (l.insertionSort fun x y => key x ≤ key y).findSome? g = (l.filterMap g).argmin f := by
  have htotal : Std.Total fun x y : α => key x ≤ key y := ⟨fun x y => le_total (key x) (key y)⟩
  have htrans : IsTrans α fun x y => key x ≤ key y := ⟨fun x y z => le_trans⟩
  induction l with
  | nil => rfl
  | cons a l ih =>
    rw [List.insertionSort_cons,
      findSome?_orderedInsert hg a (List.pairwise_insertionSort _ l), ih]
    cases ha : g a with
    | none => rw [List.filterMap_cons_none ha]
    | some b =>
      rw [List.filterMap_cons_some ha, List.argmin_cons]
      cases (l.filterMap g).argmin f <;> rfl

end Sorted

/-! ## Keys that wrap around -/

/-- All keys wrap around at `w`, or every element whose key does is beaten by one whose key does
not: by an earlier one with at most its remainder, or by a later one with less. -/
def FairlyWrapped (w : Nat) (f : α → Nat) (l : List α) : Prop :=
  (∀ c ∈ l, w ≤ f c) ∨
    ∀ pre c post, l = pre ++ c :: post → w ≤ f c →
      (∃ b ∈ pre, f b < w ∧ f b + w ≤ f c) ∨ ∃ b ∈ post, f b < w ∧ f b + w < f c

section Wrapped

variable {w : Nat} {f : α → Nat} {l : List α}

theorem fairlyWrapped_of_forall_lt (h : ∀ x ∈ l, f x < w) : FairlyWrapped w f l := by
  refine .inr fun pre c post hl hc => ?_
  have hlt : f c < w := h c (hl ▸ by simp)
  omega

theorem mod_of_lt_two {n : Nat} (hn : n < 2 * w) (hw : w ≤ n) : n % w = n - w := by
  rw [Nat.mod_eq_sub_mod hw, Nat.mod_eq_of_lt (by omega)]

theorem argmin_mod_of_forall_le (hl : ∀ x ∈ l, f x < 2 * w) (hall : ∀ x ∈ l, w ≤ f x) :
    l.argmin (fun x => f x % w) = l.argmin f := by
  have hmod : ∀ x ∈ l, f x % w = f x - w := fun x hx => mod_of_lt_two (hl x hx) (hall x hx)
  cases hm : l.argmin f with
  | none => rw [List.argmin_eq_none.mp hm]; rfl
  | some m =>
    obtain ⟨pre, post, rfl, hpre, hpost⟩ := argmin_eq_some_iff.mp hm
    have hmm := hmod m (by simp)
    have hwm := hall m (by simp)
    refine argmin_eq_some_iff.mpr ⟨pre, post, rfl, fun y hy => ?_, fun y hy => ?_⟩
    · have hlt := hpre y hy
      rw [hmm, hmod y (by simp [hy])]
      omega
    · have hle := hpost y hy
      rw [hmm, hmod y (by simp [hy])]
      omega

/-- In a fairly wrapped list with a least key that does not wrap around, what wraps around after it
has no smaller remainder. -/
theorem le_sub_of_beaten {p₁ p₂ : List α} {m y : α} (hleast : ∀ x ∈ p₁ ++ y :: p₂, f m ≤ f x)
    (hbeaten : (∃ b ∈ p₁, f b < w ∧ f b + w ≤ f y) ∨ ∃ b ∈ p₂, f b < w ∧ f b + w < f y) :
    f m ≤ f y - w := by
  rcases hbeaten with ⟨b, hb, -, hle⟩ | ⟨b, hb, -, hlt⟩
  · have hmb := hleast b (List.mem_append_left _ hb)
    omega
  · have hmb := hleast b (by simp [hb])
    omega

/-- And what wraps around before it has a greater one. -/
theorem lt_sub_of_beaten {p₁ p₂ : List α} {m y : α} (hbefore : ∀ x ∈ p₁, f m < f x)
    (hleast : ∀ x ∈ p₂, f m ≤ f x)
    (hbeaten : (∃ b ∈ p₁, f b < w ∧ f b + w ≤ f y) ∨ ∃ b ∈ p₂, f b < w ∧ f b + w < f y) :
    f m < f y - w := by
  rcases hbeaten with ⟨b, hb, -, hle⟩ | ⟨b, hb, -, hlt⟩
  · have hmb := hbefore b hb
    omega
  · have hmb := hleast b hb
    omega

theorem argmin_mod_of_fairlyWrapped (hl : ∀ x ∈ l, f x < 2 * w) (h : FairlyWrapped w f l) :
    l.argmin (fun x => f x % w) = l.argmin f := by
  rcases h with hall | hbeaten
  · exact argmin_mod_of_forall_le hl hall
  cases hm : l.argmin f with
  | none => rw [List.argmin_eq_none.mp hm]; rfl
  | some m =>
    have hleast : ∀ y ∈ l, f m ≤ f y := fun y hy => List.le_of_mem_argmin hy hm
    by_cases hwm : w ≤ f m
    · rw [← hm]
      exact argmin_mod_of_forall_le hl fun y hy => hwm.trans (hleast y hy)
    · obtain ⟨pre, post, rfl, hpre, hpost⟩ := argmin_eq_some_iff.mp hm
      have hmm : f m % w = f m := Nat.mod_eq_of_lt (Nat.lt_of_not_le hwm)
      refine argmin_eq_some_iff.mpr ⟨pre, post, rfl, fun y hy => ?_, fun y hy => ?_⟩
      · rw [hmm]
        by_cases hwy : w ≤ f y
        · rw [mod_of_lt_two (hl y (by simp [hy])) hwy]
          obtain ⟨p₁, p₂, rfl⟩ := List.append_of_mem hy
          refine lt_sub_of_beaten (fun x hx => hpre x (by simp [hx])) (fun x hx => hleast x ?_)
            (hbeaten p₁ y (p₂ ++ m :: post) (by simp) hwy)
          rcases List.mem_append.mp hx with hx | hx
          · simp [hx]
          · exact List.mem_append_right _ hx
        · rw [Nat.mod_eq_of_lt (Nat.lt_of_not_le hwy)]
          exact hpre y hy
      · rw [hmm]
        by_cases hwy : w ≤ f y
        · rw [mod_of_lt_two (hl y (by simp [hy])) hwy]
          obtain ⟨p₁, p₂, hsplit⟩ := List.append_of_mem (List.mem_append_right pre
            (List.mem_cons_of_mem m hy))
          exact le_sub_of_beaten (hsplit ▸ hleast) (hbeaten p₁ y p₂ hsplit hwy)
        · rw [Nat.mod_eq_of_lt (Nat.lt_of_not_le hwy)]
          exact hpost y hy

/-- An element of a list that is cut in front of another one. -/
theorem mem_before_or_after {pre post p₁ p₂ : List α} {m c : α}
    (h : pre ++ m :: post = p₁ ++ c :: p₂) (hne : m ≠ c) :
    (c ∈ pre ∧ m ∈ p₂) ∨ (c ∈ post ∧ m ∈ p₁) := by
  rcases List.append_eq_append_iff.mp h with ⟨mid, rfl, hmid⟩ | ⟨mid, rfl, hmid⟩
  · cases mid with
    | nil => exact absurd (List.cons.inj hmid).1 hne
    | cons x mid =>
      obtain ⟨rfl, rfl⟩ := List.cons.inj hmid
      exact .inr ⟨by simp, by simp⟩
  · cases mid with
    | nil => exact absurd (List.cons.inj hmid).1.symm hne
    | cons x mid =>
      obtain ⟨rfl, rfl⟩ := List.cons.inj hmid
      exact .inl ⟨by simp, by simp⟩

theorem fairlyWrapped_of_argmin_mod (hl : ∀ x ∈ l, f x < 2 * w)
    (h : l.argmin (fun x => f x % w) = l.argmin f) : FairlyWrapped w f l := by
  cases hm : l.argmin f with
  | none =>
    rw [List.argmin_eq_none.mp hm]
    exact .inl (by simp)
  | some m =>
    have hleast : ∀ y ∈ l, f m ≤ f y := fun y hy => List.le_of_mem_argmin hy hm
    by_cases hwm : w ≤ f m
    · exact .inl fun y hy => hwm.trans (hleast y hy)
    · refine .inr fun p₁ c p₂ hsplit hwc => ?_
      rw [hm] at h
      obtain ⟨pre, post, rfl, hpre, hpost⟩ := argmin_eq_some_iff.mp h
      have hlt : f m < w := Nat.lt_of_not_le hwm
      have hmm : f m % w = f m := Nat.mod_eq_of_lt hlt
      have hmod := mod_of_lt_two (hl c (by rw [hsplit]; simp)) hwc
      have hne : m ≠ c := by
        rintro rfl
        exact hwm hwc
      rcases mem_before_or_after hsplit hne with ⟨hc, hmem⟩ | ⟨hc, hmem⟩
      · have hbeats := hpre c hc
        rw [hmm, hmod] at hbeats
        exact .inr ⟨m, hmem, hlt, by omega⟩
      · have hbeats := hpost c hc
        rw [hmm, hmod] at hbeats
        exact .inl ⟨m, hmem, hlt, by omega⟩

/-- **When wrapping around does not matter.** -/
theorem argmin_mod_iff (hl : ∀ x ∈ l, f x < 2 * w) :
    l.argmin (fun x => f x % w) = l.argmin f ↔ FairlyWrapped w f l :=
  ⟨fairlyWrapped_of_argmin_mod hl, argmin_mod_of_fairlyWrapped hl⟩

end Wrapped

end Protun.StableMin
