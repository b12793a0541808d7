import Mathlib.Data.List.Nodup

/-!
# A table kept in step with a list

A table maps a key to a value; `put` inserts or replaces, `del` removes. `ofList key val xs` is the
table `{ key x ↦ val x | x ∈ xs }` of a list whose keys are distinct.

`sync`: a table that holds an old list is brought to a new one by deleting, by key, the elements
that are not in the new list and then putting those that were not in the old one. The difference
is taken on whole elements while `del` sees keys only, so the two steps do not commute: an element
replaced by another one of the same key is first deleted and then put. Distinct keys in both lists
are what makes the result right.
-/

namespace Protun

/-- A table from keys to values. -/
abbrev Table (κ ν : Type) := κ → Option ν

namespace Table

variable {α κ ν : Type} [DecidableEq κ]

/-- Insert or replace the entry of `k`. -/
def put (t : Table κ ν) (k : κ) (v : ν) : Table κ ν :=
  fun k' => if k' = k then some v else t k'

/-- Delete the entry of `k`. -/
def del (t : Table κ ν) (k : κ) : Table κ ν :=
  fun k' => if k' = k then none else t k'

/-- The table of a list. -/
def ofList (key : α → κ) (val : α → ν) (xs : List α) : Table κ ν :=
  fun k => (xs.find? fun x => key x = k).map val

variable {key : α → κ} {val : α → ν}

omit [DecidableEq κ] in
theorem key_inj {xs : List α} (h : (xs.map key).Nodup) {x y : α} (hx : x ∈ xs) (hy : y ∈ xs)
    (hk : key x = key y) : x = y :=
  List.inj_on_of_nodup_map h hx hy hk

theorem ofList_eq_some {xs : List α} (h : (xs.map key).Nodup) {k : κ} {v : ν} :
    ofList key val xs k = some v ↔ ∃ x ∈ xs, key x = k ∧ val x = v := by
  unfold ofList
  rw [Option.map_eq_some_iff]
  constructor
  · rintro ⟨x, hx, rfl⟩
    exact ⟨x, List.mem_of_find?_eq_some hx, by simpa using List.find?_some hx, rfl⟩
  · rintro ⟨x, hx, rfl, rfl⟩
    cases hf : xs.find? (fun y => key y = key x) with
    | none => exact absurd (List.find?_eq_none.mp hf x hx) (by simp)
    | some y =>
      have hy : key y = key x := by simpa using List.find?_some hf
      exact ⟨y, rfl, by rw [key_inj h (List.mem_of_find?_eq_some hf) hx hy]⟩

theorem ofList_eq_none {xs : List α} {k : κ} :
    ofList key val xs k = none ↔ ∀ x ∈ xs, key x ≠ k := by
  simp [ofList, List.find?_eq_none]

/-- Delete the keys of a list, in order. -/
def delAll (key : α → κ) (t : Table κ ν) (xs : List α) : Table κ ν :=
  xs.foldl (fun t x => t.del (key x)) t

/-- Put the elements of a list, in order. -/
def putAll (key : α → κ) (val : α → ν) (t : Table κ ν) (xs : List α) : Table κ ν :=
  xs.foldl (fun t x => t.put (key x) (val x)) t

theorem delAll_apply (xs : List α) (t : Table κ ν) (k : κ) :
    delAll key t xs k = if ∃ x ∈ xs, key x = k then none else t k := by
  induction xs generalizing t with
  | nil => simp [delAll]
  | cons x xs ih =>
    have hstep : delAll key t (x :: xs) = delAll key (t.del (key x)) xs := rfl
    rw [hstep, ih]
    by_cases hk : k = key x
    · subst hk
      simp [del]
    · have hk' : ¬ key x = k := fun e => hk e.symm
      simp [del, hk, hk']

theorem putAll_apply {xs : List α} (h : (xs.map key).Nodup) (t : Table κ ν) (k : κ) :
    putAll key val t xs k = (ofList key val xs k).or (t k) := by
  induction xs generalizing t with
  | nil => rfl
  | cons x xs ih =>
    rw [List.map_cons, List.nodup_cons] at h
    have hstep : putAll key val t (x :: xs) = putAll key val (t.put (key x) (val x)) xs := rfl
    rw [hstep, ih h.2]
    by_cases hk : key x = k
    · subst hk
      have hnone : ofList key val xs (key x) = none :=
        ofList_eq_none.mpr fun y hy e => h.1 (e ▸ List.mem_map_of_mem hy)
      rw [hnone]
      simp [ofList, put]
    · have hk' : k ≠ key x := fun e => hk e.symm
      simp [ofList, put, hk, hk']

variable [DecidableEq α]

/-- **Deleting what is gone and then putting what is new** takes the table of the old list to the
table of the new one. -/
theorem sync {old new : List α} (ho : (old.map key).Nodup) (hn : (new.map key).Nodup) :
    putAll key val (delAll key (ofList key val old) (old.filter fun x => x ∉ new))
      (new.filter fun x => x ∉ old) = ofList key val new := by
  funext k
  have hfilt : ((new.filter fun x => x ∉ old).map key).Nodup :=
    hn.sublist (List.filter_sublist.map key)
  rw [putAll_apply hfilt, delAll_apply]
  cases hnew : ofList key val new k with
  | none =>
    -- nobody in the new list has this key: nothing is put, and a holder of the key is deleted
    rw [ofList_eq_none] at hnew
    have hput : ofList key val (new.filter fun x => x ∉ old) k = none :=
      ofList_eq_none.mpr fun x hx => hnew x (List.mem_of_mem_filter hx)
    rw [hput, Option.none_or]
    by_cases hex : ∃ x ∈ old, key x = k
    · obtain ⟨x, hx, hk⟩ := hex
      rw [if_pos ⟨x, List.mem_filter.mpr ⟨hx, by simpa using fun h => hnew x h hk⟩, hk⟩]
    · have hold : ofList key val old k = none :=
        ofList_eq_none.mpr fun x hx hk => hex ⟨x, hx, hk⟩
      rw [hold, ite_self]
  | some v =>
    obtain ⟨x, hx, hk, hv⟩ := (ofList_eq_some hn).mp hnew
    by_cases hxo : x ∈ old
    · -- kept: not put again, and no other element of the old list has its key
      have hput : ofList key val (new.filter fun x => x ∉ old) k = none := by
        rw [ofList_eq_none]
        intro y hy hyk
        obtain ⟨hyn, hyo⟩ := List.mem_filter.mp hy
        rw [key_inj hn hyn hx (hyk.trans hk.symm)] at hyo
        exact absurd hxo (by simpa using hyo)
      have hdel : ¬ ∃ y ∈ old.filter (fun x => x ∉ new), key y = k := by
        rintro ⟨y, hy, hyk⟩
        obtain ⟨hyo, hyn⟩ := List.mem_filter.mp hy
        rw [key_inj ho hyo hxo (hyk.trans hk.symm)] at hyn
        exact absurd hx (by simpa using hyn)
      rw [hput, Option.none_or, if_neg hdel]
      exact (ofList_eq_some ho).mpr ⟨x, hxo, hk, hv⟩
    · have hput : ofList key val (new.filter fun x => x ∉ old) k = some v :=
        (ofList_eq_some hfilt).mpr ⟨x, List.mem_filter.mpr ⟨hx, by simpa using hxo⟩, hk, hv⟩
      rw [hput, Option.some_or]

end Table

end Protun
