import Mathlib.Data.List.Nodup
import Mathlib.Order.Lattice
import Mathlib.Order.Nat

/-!
# One pass that keeps the best element of every key

A single pass over a list remembers, for every key, the index and the rank of the best element
seen so far, and collects the indices of all the others: a strictly better element displaces the
one it beats, any other element is a duplicate itself. `dropDuplicates` then removes the collected
indices.

`ScanInv done best dups` is the loop invariant: after the elements `done`, `best` points at the
first element of least rank of every key that occurs, and `dups` lists the other indices, each
once. `scan_inv` proves it of the whole pass.

* `mem_kept`, `dropDuplicates_eq`: what is left, in order, is the first element of least rank of
  every key (`FirstLeast`).
* `nodup_keys_dropDuplicates`, `filter_key_dropDuplicates`: every key that occurs is left once.
* `length_dropDuplicates`: the duplicates are counted exactly.
* `duplicates_of_nodup`: a list without a repeated key is left as it is.
-/

namespace Protun.BestPerKey

variable {α κ ρ : Type} [DecidableEq κ] [LinearOrder ρ] (key : α → κ) (rank : α → ρ)

/-- The map from a key to the index and the rank of its best element so far. -/
abbrev Best (κ ρ : Type) := κ → Option (Nat × ρ)

/-- `insert` of the map. -/
def insert (best : Best κ ρ) (k : κ) (v : Nat × ρ) : Best κ ρ :=
  fun k' => if k' = k then some v else best k'

/-- One iteration of the pass, at index `i`. -/
def visit (i : Nat) (x : α) (acc : Best κ ρ × List Nat) : Best κ ρ × List Nat :=
  match acc.1 (key x) with
  | some (j, r) =>
    if rank x < r then (insert acc.1 (key x) (i, rank x), acc.2 ++ [j])
    else (acc.1, acc.2 ++ [i])
  | none => (insert acc.1 (key x) (i, rank x), acc.2)

/-- The pass, from index `i` on. -/
def scan : Nat → List α → Best κ ρ × List Nat → Best κ ρ × List Nat
  | _, [], acc => acc
  | i, x :: xs, acc => scan (i + 1) xs (visit key rank i x acc)

/-- The indices that are not the best of their key. -/
def duplicates (xs : List α) : List Nat :=
  (scan key rank 0 xs (fun _ => none, [])).2

/-- The elements whose index is not a duplicate. -/
def dropDuplicates (xs : List α) : List α :=
  (xs.zipIdx.filter fun x => !(duplicates key rank xs).contains x.2).map Prod.fst

variable {key rank}

omit [LinearOrder ρ] in
@[simp] theorem insert_self (best : Best κ ρ) (k : κ) (v : Nat × ρ) :
    insert best k v k = some v := by
  simp [insert]

omit [LinearOrder ρ] in
theorem insert_ne (best : Best κ ρ) {k k' : κ} (h : k' ≠ k) (v : Nat × ρ) :
    insert best k v k' = best k' := by
  simp [insert, h]

/-- What the pass knows after `done`. -/
structure ScanInv (key : α → κ) (rank : α → ρ) (done : List α) (best : Best κ ρ)
    (dups : List Nat) : Prop where
  /-- The map points at elements of their key, with their rank. -/
  best_sound : ∀ k j r, best k = some (j, r) → ∃ x, done[j]? = some x ∧ key x = k ∧ rank x = r
  /-- Every element is at most as good as the one its key points at, and not earlier. -/
  best_least : ∀ i x, done[i]? = some x → ∃ j r, best (key x) = some (j, r) ∧
    (r < rank x ∨ r = rank x ∧ j ≤ i)
  /-- The duplicates are the elements their key does not point at. -/
  mem_dups : ∀ i, i ∈ dups ↔ ∃ x, done[i]? = some x ∧ ∀ r, best (key x) ≠ some (i, r)
  dups_nodup : dups.Nodup

omit [DecidableEq κ] in
theorem scanInv_nil : ScanInv key rank ([] : List α) (fun _ => none) [] where
  best_sound := by simp
  best_least := by simp
  mem_dups := by simp
  dups_nodup := List.nodup_nil

/-- The elements of `done ++ [x]`: the earlier ones, and `x` at the end. -/
theorem getElem?_snoc {done : List α} {x y : α} {i : Nat} :
    (done ++ [x])[i]? = some y ↔ done[i]? = some y ∨ (i = done.length ∧ y = x) := by
  rcases Nat.lt_trichotomy i done.length with h | h | h
  · rw [List.getElem?_append_left h]
    simp only [show i ≠ done.length by omega, false_and, or_false]
  · subst h
    simp [eq_comm]
  · rw [List.getElem?_append_right (by omega)]
    have h0 : i - done.length ≠ 0 := by omega
    have hn : done[i]? = none := List.getElem?_eq_none (by omega)
    simp [hn, h0, show i ≠ done.length by omega]

theorem lt_of_getElem? {done : List α} {x : α} {i : Nat} (h : done[i]? = some x) :
    i < done.length :=
  (List.getElem?_eq_some_iff.mp h).1

/-- Adding one element to the duplicates keeps them distinct. -/
theorem nodup_snoc {dups : List Nat} {j : Nat} (h : dups.Nodup) (hj : j ∉ dups) :
    (dups ++ [j]).Nodup := by
  refine List.nodup_append.mpr ⟨h, List.nodup_singleton j, ?_⟩
  intro a ha b hb e
  rw [List.mem_singleton.mp hb] at e
  exact hj (e ▸ ha)

/-- The map stays sound when the last element becomes the best of its key. -/
theorem ScanInv.best_sound_insert {done : List α} {best : Best κ ρ} {dups : List Nat}
    (h : ScanInv key rank done best dups) (x : α) (k : κ) (j : Nat) (r : ρ)
    (hk : insert best (key x) (done.length, rank x) k = some (j, r)) :
    ∃ y, (done ++ [x])[j]? = some y ∧ key y = k ∧ rank y = r := by
  by_cases hkx : k = key x
  · subst hkx
    rw [insert_self] at hk
    obtain ⟨rfl, rfl⟩ := Prod.mk.inj (Option.some.inj hk)
    exact ⟨x, getElem?_snoc.mpr (Or.inr ⟨rfl, rfl⟩), rfl, rfl⟩
  · rw [insert_ne best hkx] at hk
    obtain ⟨y, hy, hky, hr⟩ := h.best_sound k j r hk
    exact ⟨y, getElem?_snoc.mpr (Or.inl hy), hky, hr⟩

omit [LinearOrder ρ] in
/-- An earlier element is a duplicate once the last element is the best of its key. -/
theorem insert_length_ne {done : List α} {best : Best κ ρ} {x y : α} {i : Nat}
    (hy : done[i]? = some y) (hkx : key y = key x) (s : ρ) :
    insert best (key x) (done.length, rank x) (key y) ≠ some (i, s) := by
  intro hs
  rw [hkx, insert_self] at hs
  have hlt := lt_of_getElem? hy
  have heq := (Prod.mk.inj (Option.some.inj hs)).1
  omega

omit [DecidableEq κ] in
/-- No earlier element has a key that is seen for the first time. -/
theorem ScanInv.key_ne {done : List α} {best : Best κ ρ} {dups : List Nat} {x y : α} {i : Nat}
    (h : ScanInv key rank done best dups) (hx : best (key x) = none) (hy : done[i]? = some y) :
    key y ≠ key x := by
  intro e
  obtain ⟨j, r, hb, -⟩ := h.best_least i y hy
  rw [e, hx] at hb
  cases hb

omit [DecidableEq κ] in
/-- The element a key points at is not among the duplicates. -/
theorem ScanInv.best_not_mem {done : List α} {best : Best κ ρ} {dups : List Nat} {k : κ} {j : Nat}
    {r : ρ} (h : ScanInv key rank done best dups) (hk : best k = some (j, r)) : j ∉ dups := by
  intro hm
  obtain ⟨z, hz, hkz, -⟩ := h.best_sound _ _ _ hk
  obtain ⟨y, hy, hd⟩ := (h.mem_dups j).mp hm
  rw [hz] at hy
  cases hy
  exact hd r (hkz ▸ hk)

/-- A key seen for the first time. -/
theorem ScanInv.visit_new {done : List α} {best : Best κ ρ} {dups : List Nat} {x : α}
    (h : ScanInv key rank done best dups) (hx : best (key x) = none) :
    ScanInv key rank (done ++ [x]) (insert best (key x) (done.length, rank x)) dups where
  best_sound := h.best_sound_insert x
  best_least := by
    intro i y hy
    rcases getElem?_snoc.mp hy with hy | ⟨rfl, rfl⟩
    · obtain ⟨j, r, hb, hle⟩ := h.best_least i y hy
      have hne := h.key_ne hx hy
      exact ⟨j, r, by rw [insert_ne best hne]; exact hb, hle⟩
    · exact ⟨done.length, rank y, insert_self _ _ _, Or.inr ⟨rfl, le_refl _⟩⟩
  mem_dups := by
    intro i
    rw [h.mem_dups i]
    constructor
    · rintro ⟨y, hy, hd⟩
      have hne := h.key_ne hx hy
      exact ⟨y, getElem?_snoc.mpr (Or.inl hy), fun r' => by rw [insert_ne best hne]; exact hd r'⟩
    · rintro ⟨y, hy, hd⟩
      rcases getElem?_snoc.mp hy with hy | ⟨rfl, rfl⟩
      · have hne := h.key_ne hx hy
        exact ⟨y, hy, fun r' => by rw [← insert_ne best hne]; exact hd r'⟩
      · exact absurd (insert_self _ _ _) (hd (rank y))
  dups_nodup := h.dups_nodup

/-- An element that beats the best of its key. -/
theorem ScanInv.visit_better {done : List α} {best : Best κ ρ} {dups : List Nat} {x : α} {j : Nat}
    {r : ρ} (h : ScanInv key rank done best dups) (hx : best (key x) = some (j, r))
    (hr : rank x < r) :
    ScanInv key rank (done ++ [x]) (insert best (key x) (done.length, rank x)) (dups ++ [j]) where
  best_sound := h.best_sound_insert x
  best_least := by
    intro i y hy
    rcases getElem?_snoc.mp hy with hy | ⟨rfl, rfl⟩
    · obtain ⟨j', r', hb, hle⟩ := h.best_least i y hy
      by_cases hkx : key y = key x
      · rw [hkx, hx] at hb
        obtain ⟨rfl, rfl⟩ := Prod.mk.inj (Option.some.inj hb)
        refine ⟨done.length, rank x, by rw [hkx]; exact insert_self _ _ _, Or.inl ?_⟩
        rcases hle with hle | ⟨hle, -⟩
        · exact lt_trans hr hle
        · exact hle ▸ hr
      · exact ⟨j', r', by rw [insert_ne best hkx]; exact hb, hle⟩
    · exact ⟨done.length, rank y, insert_self _ _ _, Or.inr ⟨rfl, le_refl _⟩⟩
  mem_dups := by
    obtain ⟨z, hz, hkz, -⟩ := h.best_sound _ _ _ hx
    intro i
    rw [List.mem_append, List.mem_singleton, h.mem_dups i]
    constructor
    · rintro (⟨y, hy, hd⟩ | rfl)
      · refine ⟨y, getElem?_snoc.mpr (Or.inl hy), fun s hs => ?_⟩
        by_cases hkx : key y = key x
        · exact insert_length_ne hy hkx s hs
        · rw [insert_ne best hkx] at hs
          exact hd s hs
      · exact ⟨z, getElem?_snoc.mpr (Or.inl hz), insert_length_ne hz hkz⟩
    · rintro ⟨y, hy, hd⟩
      rcases getElem?_snoc.mp hy with hy | ⟨rfl, rfl⟩
      · by_cases hi : i = j
        · exact Or.inr hi
        · refine Or.inl ⟨y, hy, fun s hs => ?_⟩
          by_cases hkx : key y = key x
          · rw [hkx, hx] at hs
            exact hi (Prod.mk.inj (Option.some.inj hs)).1.symm
          · exact hd s (by rw [insert_ne best hkx]; exact hs)
      · exact absurd (insert_self _ _ _) (hd (rank y))
  dups_nodup := nodup_snoc h.dups_nodup (h.best_not_mem hx)

omit [DecidableEq κ] in
/-- An element that does not beat the best of its key. -/
theorem ScanInv.visit_duplicate {done : List α} {best : Best κ ρ} {dups : List Nat} {x : α}
    {j : Nat} {r : ρ} (h : ScanInv key rank done best dups) (hx : best (key x) = some (j, r))
    (hr : ¬ rank x < r) : ScanInv key rank (done ++ [x]) best (dups ++ [done.length]) where
  best_sound := by
    intro k i s hk
    obtain ⟨y, hy, hky, hs⟩ := h.best_sound k i s hk
    exact ⟨y, getElem?_snoc.mpr (Or.inl hy), hky, hs⟩
  best_least := by
    intro i y hy
    rcases getElem?_snoc.mp hy with hy | ⟨rfl, rfl⟩
    · exact h.best_least i y hy
    · obtain ⟨z, hz, -, -⟩ := h.best_sound _ _ _ hx
      refine ⟨j, r, hx, ?_⟩
      rcases lt_or_eq_of_le (not_lt.mp hr) with hlt | heq
      · exact Or.inl hlt
      · exact Or.inr ⟨heq, (lt_of_getElem? hz).le⟩
  mem_dups := by
    obtain ⟨z, hz, -, -⟩ := h.best_sound _ _ _ hx
    intro i
    rw [List.mem_append, List.mem_singleton, h.mem_dups i]
    constructor
    · rintro (⟨y, hy, hd⟩ | rfl)
      · exact ⟨y, getElem?_snoc.mpr (Or.inl hy), hd⟩
      · refine ⟨x, getElem?_snoc.mpr (Or.inr ⟨rfl, rfl⟩), fun s hs => ?_⟩
        rw [hx] at hs
        have := (Prod.mk.inj (Option.some.inj hs)).1
        have := lt_of_getElem? hz
        omega
    · rintro ⟨y, hy, hd⟩
      rcases getElem?_snoc.mp hy with hy | ⟨hi, -⟩
      · exact Or.inl ⟨y, hy, hd⟩
      · exact Or.inr hi
  dups_nodup := by
    have hn : done.length ∉ dups := fun hm => by
      obtain ⟨y, hy, -⟩ := (h.mem_dups _).mp hm
      exact absurd (lt_of_getElem? hy) (lt_irrefl _)
    exact nodup_snoc h.dups_nodup hn

theorem ScanInv.visit {done : List α} {acc : Best κ ρ × List Nat}
    (h : ScanInv key rank done acc.1 acc.2) (x : α) :
    ScanInv key rank (done ++ [x]) (visit key rank done.length x acc).1
      (visit key rank done.length x acc).2 := by
  unfold BestPerKey.visit
  cases hx : acc.1 (key x) with
  | none => exact h.visit_new hx
  | some jr =>
    obtain ⟨j, r⟩ := jr
    by_cases hr : rank x < r
    · simp only [hr, if_true]
      exact h.visit_better hx hr
    · simp only [hr, if_false]
      exact h.visit_duplicate hx hr

variable (key rank)

/-- **The invariant holds after the whole pass.** -/
theorem scan_inv : ∀ (xs done : List α) (acc : Best κ ρ × List Nat),
    ScanInv key rank done acc.1 acc.2 →
      ScanInv key rank (done ++ xs) (scan key rank done.length xs acc).1
        (scan key rank done.length xs acc).2
  | [], done, acc, h => by simpa [scan] using h
  | x :: xs, done, acc, h => by
    have h' := scan_inv xs (done ++ [x]) _ (h.visit x)
    simpa [scan] using h'

/-- The pass over a whole list, from the empty map. -/
theorem scanInv_duplicates (xs : List α) :
    ∃ best, ScanInv key rank xs best (duplicates key rank xs) := by
  have h := scan_inv key rank xs [] (fun _ => none, []) scanInv_nil
  exact ⟨_, by simpa [duplicates] using h⟩

/-! ## What is left -/

/-- `x` at index `i` is the first element of least rank among those with its key. -/
def FirstLeast (xs : List α) (i : Nat) (x : α) : Prop :=
  xs[i]? = some x ∧ ∀ j y, xs[j]? = some y → key y = key x →
    rank x < rank y ∨ (rank x = rank y ∧ i ≤ j)

/-- The indices that are left, in order. -/
def kept (xs : List α) : List Nat :=
  (List.range xs.length).filter fun i => !(duplicates key rank xs).contains i

variable {key rank}

omit [DecidableEq κ] in
/-- A key has one first element of least rank. -/
theorem FirstLeast.index_unique {xs : List α} {i j : Nat} {x y : α}
    (hx : FirstLeast key rank xs i x) (hy : FirstLeast key rank xs j y) (hkey : key x = key y) :
    i = j := by
  rcases hx.2 j y hy.1 hkey.symm with hlt | ⟨heq, hij⟩
  · rcases hy.2 i x hx.1 hkey with hlt' | ⟨heq', -⟩
    · exact absurd hlt' (lt_asymm hlt)
    · exact absurd heq' hlt.ne'
  · rcases hy.2 i x hx.1 hkey with hlt' | ⟨-, hji⟩
    · exact absurd heq hlt'.ne'
    · omega

omit [DecidableEq κ] in
/-- After the pass every key points at its first element of least rank. -/
theorem ScanInv.firstLeast {xs : List α} {best : Best κ ρ} {dups : List Nat} {k : κ} {i : Nat}
    {r : ρ} (h : ScanInv key rank xs best dups) (hk : best k = some (i, r)) :
    ∃ x, FirstLeast key rank xs i x ∧ key x = k := by
  obtain ⟨x, hx, rfl, rfl⟩ := h.best_sound k i r hk
  refine ⟨x, ⟨hx, fun j y hy hkey => ?_⟩, rfl⟩
  obtain ⟨i', r', hb, hle⟩ := h.best_least j y hy
  rw [hkey, hk] at hb
  obtain ⟨rfl, rfl⟩ := Prod.mk.inj (Option.some.inj hb)
  exact hle

omit [DecidableEq κ] in
/-- An index is a duplicate unless it is the first of least rank. -/
theorem ScanInv.not_mem_dups {xs : List α} {best : Best κ ρ} {dups : List Nat} {i : Nat} {x : α}
    (h : ScanInv key rank xs best dups) (hx : xs[i]? = some x) :
    i ∉ dups ↔ FirstLeast key rank xs i x := by
  obtain ⟨j, r, hb, -⟩ := h.best_least i x hx
  obtain ⟨y, hy, hkey⟩ := h.firstLeast hb
  constructor
  · intro hi
    have hpoints : ∃ r', best (key x) = some (i, r') := by
      by_contra hne
      exact hi ((h.mem_dups i).mpr ⟨x, hx, fun r' hr' => hne ⟨r', hr'⟩⟩)
    obtain ⟨r', hr'⟩ := hpoints
    rw [hb] at hr'
    obtain ⟨rfl, rfl⟩ := Prod.mk.inj (Option.some.inj hr')
    obtain rfl : x = y := Option.some.inj (hx.symm.trans hy.1)
    exact hy
  · intro hfirst hi
    obtain rfl : i = j := hfirst.index_unique hy hkey.symm
    exact h.best_not_mem hb hi

variable (key rank)

/-- **An index is left iff it is the first of least rank of its key.** -/
theorem mem_kept (xs : List α) (i : Nat) :
    i ∈ kept key rank xs ↔ ∃ x, FirstLeast key rank xs i x := by
  obtain ⟨best, h⟩ := scanInv_duplicates key rank xs
  unfold kept
  simp only [List.mem_filter, List.mem_range, Bool.not_eq_true', List.contains_eq_mem,
    decide_eq_false_iff_not]
  constructor
  · rintro ⟨hlt, hi⟩
    have hx : xs[i]? = some xs[i] := List.getElem?_eq_getElem hlt
    exact ⟨xs[i], (h.not_mem_dups hx).mp hi⟩
  · rintro ⟨x, hx⟩
    exact ⟨lt_of_getElem? hx.1, (h.not_mem_dups hx.1).mpr hx⟩

theorem kept_increasing (xs : List α) : (kept key rank xs).Pairwise (· < ·) :=
  List.pairwise_lt_range.sublist List.filter_sublist

theorem kept_eq (xs : List α) :
    kept key rank xs =
      (xs.zipIdx.filter fun x => !(duplicates key rank xs).contains x.2).map Prod.snd := by
  unfold kept
  rw [List.range_eq_range', ← List.zipIdx_map_snd 0 xs, List.filter_map]
  rfl

/-- What is left are the elements at the indices that are left. -/
theorem dropDuplicates_eq (xs : List α) :
    dropDuplicates key rank xs = (kept key rank xs).filterMap (xs[·]?) := by
  unfold dropDuplicates
  rw [kept_eq, List.filterMap_map]
  refine (List.filterMap_eq_map_iff_forall_eq_some.mpr fun x hx => ?_).symm
  exact List.mem_zipIdx_iff_getElem?.mp (List.mem_of_mem_filter hx)

/-- Every index is left or a duplicate, never both. -/
theorem length_kept (xs : List α) :
    (kept key rank xs).length + (duplicates key rank xs).length = xs.length := by
  obtain ⟨best, h⟩ := scanInv_duplicates key rank xs
  have hperm : ((List.range xs.length).filter fun i => (duplicates key rank xs).contains i).Perm
      (duplicates key rank xs) := by
    refine (List.perm_ext_iff_of_nodup (List.nodup_range.filter _) h.dups_nodup).mpr fun i => ?_
    simp only [List.mem_filter, List.mem_range, List.contains_eq_mem, decide_eq_true_eq]
    refine ⟨fun hi => hi.2, fun hi => ⟨?_, hi⟩⟩
    obtain ⟨x, hx, -⟩ := (h.mem_dups i).mp hi
    exact lt_of_getElem? hx
  have hsplit := List.length_eq_length_filter_add (l := List.range xs.length)
    (fun i => (duplicates key rank xs).contains i)
  rw [List.length_range, hperm.length_eq] at hsplit
  unfold kept
  omega

theorem length_dropDuplicates (xs : List α) :
    (dropDuplicates key rank xs).length + (duplicates key rank xs).length = xs.length := by
  rw [← length_kept key rank xs, kept_eq]
  simp [dropDuplicates]

/-- **What is left has one element for every key.** -/
theorem nodup_keys_dropDuplicates (xs : List α) :
    ((dropDuplicates key rank xs).map key).Nodup := by
  rw [dropDuplicates_eq]
  refine List.pairwise_map.mpr (List.pairwise_filterMap.mpr ?_)
  refine (kept_increasing key rank xs).imp_of_mem fun hi hj hij x hx y hy hkey => ?_
  obtain ⟨x', hfx⟩ := (mem_kept key rank xs _).mp hi
  obtain ⟨y', hfy⟩ := (mem_kept key rank xs _).mp hj
  obtain rfl : x' = x := Option.some.inj (hfx.1.symm.trans hx)
  obtain rfl : y' = y := Option.some.inj (hfy.1.symm.trans hy)
  exact hij.ne (hfx.index_unique hfy hkey)

/-- Every key that occurs is left once, with its first element of least rank. -/
theorem filter_key_dropDuplicates {xs : List α} {x : α} (hx : x ∈ xs) :
    ∃ i y, FirstLeast key rank xs i y ∧ key y = key x ∧
      (dropDuplicates key rank xs).filter (key · = key x) = [y] := by
  obtain ⟨best, h⟩ := scanInv_duplicates key rank xs
  obtain ⟨j, hj⟩ := List.mem_iff_getElem?.mp hx
  obtain ⟨i, r, hb, -⟩ := h.best_least j x hj
  obtain ⟨y, hy, hkey⟩ := h.firstLeast hb
  have hnodup := nodup_keys_dropDuplicates key rank xs
  have hmem : y ∈ dropDuplicates key rank xs := by
    rw [dropDuplicates_eq]
    exact List.mem_filterMap.mpr ⟨i, (mem_kept key rank xs i).mpr ⟨y, hy⟩, hy.1⟩
  refine ⟨i, y, hy, hkey, List.perm_singleton.mp ?_⟩
  refine (List.perm_ext_iff_of_nodup ((hnodup.of_map key).filter _) (List.nodup_singleton y)).mpr
    fun z => ?_
  simp only [List.mem_filter, decide_eq_true_eq, List.mem_singleton]
  constructor
  · rintro ⟨hz, hzx⟩
    exact List.inj_on_of_nodup_map hnodup hz hmem (hzx.trans hkey.symm)
  · rintro rfl
    exact ⟨hmem, hkey⟩

/-- Without a repeated key there are no duplicates. -/
theorem duplicates_of_nodup {xs : List α} (hnodup : (xs.map key).Nodup) :
    duplicates key rank xs = [] := by
  obtain ⟨best, h⟩ := scanInv_duplicates key rank xs
  refine List.eq_nil_iff_forall_not_mem.mpr fun i hi => ?_
  obtain ⟨x, hx, -⟩ := (h.mem_dups i).mp hi
  refine absurd hi ((h.not_mem_dups hx).mpr ⟨hx, fun j y hy hkey => ?_⟩)
  -- the only element with the key of `x` is `x` itself
  have hgeti : (xs.map key)[i]? = some (key x) := by simp [hx]
  have hgetj : (xs.map key)[j]? = some (key x) := by simp [hy, hkey]
  have hij : i = j :=
    (List.getElem?_inj (lt_of_getElem? hgeti) hnodup).mp (hgeti.trans hgetj.symm)
  subst hij
  obtain rfl : x = y := Option.some.inj (hx.symm.trans hy)
  exact Or.inr ⟨rfl, le_refl _⟩

end Protun.BestPerKey
