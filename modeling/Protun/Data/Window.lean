import Mathlib.Data.List.DropRight

/-!
# The end of a list

A log is read from its end: what came after the last element of some kind, and the latest value of
some kind.

* `sinceLast p l`: the elements after the last one that satisfies `p`.
* `latest f l`: the value `f` reads off the last element it reads one off.
* `exists_of_latest_sinceLast`: where the latest value since the last `p` comes from.
* `FirstFrom p l i j`: `j` is the first position from `i` on that satisfies `p`; there is one at
  most.
-/

namespace Protun.Window

variable {α β : Type}

/-! ## Since the last element of a kind -/

/-- The elements after the last one that satisfies `p`; all of them if there is none. -/
def sinceLast (p : α → Bool) (l : List α) : List α := l.rtakeWhile fun x => !p x

@[simp] theorem sinceLast_nil (p : α → Bool) : sinceLast p [] = [] := List.rtakeWhile_nil _

@[simp] theorem sinceLast_snoc (p : α → Bool) (l : List α) (x : α) :
    sinceLast p (l ++ [x]) = if p x then [] else sinceLast p l ++ [x] := by
  unfold sinceLast
  rw [List.rtakeWhile_concat]
  by_cases hx : p x <;> simp [hx]

theorem not_of_mem_sinceLast {p : α → Bool} {l : List α} {x : α} (hx : x ∈ sinceLast p l) :
    p x = false := by
  simpa using List.mem_rtakeWhile_imp hx

/-- The list ends with what came since the last `p`. -/
theorem sinceLast_suffix (p : α → Bool) (l : List α) : sinceLast p l <:+ l :=
  List.rtakeWhile_suffix _ _

/-! ## The latest value -/

/-- The value `f` reads off the last element it reads one off. -/
def latest (f : α → Option β) (l : List α) : Option β := (l.filterMap f).getLast?

@[simp] theorem latest_nil (f : α → Option β) : latest f [] = none := rfl

@[simp] theorem latest_snoc (f : α → Option β) (l : List α) (x : α) :
    latest f (l ++ [x]) = (f x).or (latest f l) := by
  unfold latest
  rw [List.filterMap_append]
  cases hx : f x <;> simp [hx]

/-- Where the latest value comes from. -/
theorem exists_of_latest {f : α → Option β} {l : List α} {b : β} (h : latest f l = some b) :
    ∃ pre x post, l = pre ++ x :: post ∧ f x = some b ∧ ∀ y ∈ post, f y = none := by
  induction l using List.reverseRecOn with
  | nil => simp at h
  | append_singleton l x ih =>
    rw [latest_snoc] at h
    cases hx : f x with
    | some b' =>
      rw [hx] at h
      exact ⟨l, x, [], rfl, hx.trans h, by simp⟩
    | none =>
      rw [hx] at h
      obtain ⟨pre, y, post, rfl, hy, hpost⟩ := ih h
      refine ⟨pre, y, post ++ [x], by simp, hy, fun z hz => ?_⟩
      rcases List.mem_append.mp hz with hz | hz
      · exact hpost z hz
      · exact (List.mem_singleton.mp hz) ▸ hx

/-- Where the latest value since the last `p` comes from: no later element satisfies `p`. -/
theorem exists_of_latest_sinceLast {p : α → Bool} {f : α → Option β} {l : List α} {b : β}
    (h : latest f (sinceLast p l) = some b) :
    ∃ (i : Nat) (x : α), l[i]? = some x ∧ f x = some b ∧
      ∀ (k : Nat) (y : α), i < k → l[k]? = some y → p y = false := by
  obtain ⟨pre, x, post, hsplit, hx, -⟩ := exists_of_latest h
  obtain ⟨start, hl⟩ := sinceLast_suffix p l
  have hcut : l = (start ++ pre) ++ x :: post := by rw [← hl, hsplit, List.append_assoc]
  refine ⟨(start ++ pre).length, x, by rw [hcut]; simp, hx, fun k y hk hy => ?_⟩
  -- position `k` is in `post`
  rw [hcut, List.getElem?_append_right hk.le] at hy
  obtain ⟨m, hm⟩ := Nat.exists_eq_succ_of_ne_zero (Nat.sub_ne_zero_of_lt hk)
  rw [hm, List.getElem?_cons_succ] at hy
  have hmem : y ∈ sinceLast p l := by
    rw [hsplit]
    exact List.mem_append_right _ (List.mem_cons_of_mem x (List.mem_of_getElem? hy))
  exact not_of_mem_sinceLast hmem

/-! ## The first element of a kind from a position on -/

/-- `j` is the first position from `i` on that satisfies `p`. -/
structure FirstFrom (p : α → Bool) (l : List α) (i j : Nat) : Prop where
  le : i ≤ j
  here : ∃ x, l[j]? = some x ∧ p x = true
  before : ∀ (k : Nat) (y : α), i ≤ k → k < j → l[k]? = some y → p y = false

theorem FirstFrom.unique {p : α → Bool} {l : List α} {i j j' : Nat} (h : FirstFrom p l i j)
    (h' : FirstFrom p l i j') : j = j' := by
  obtain ⟨x, hx, hpx⟩ := h.here
  obtain ⟨y, hy, hpy⟩ := h'.here
  rcases Nat.lt_trichotomy j j' with hlt | heq | hlt
  · rw [h'.before j x h.le hlt hx] at hpx
    cases hpx
  · exact heq
  · rw [h.before j' y h'.le hlt hy] at hpy
    cases hpy

end Protun.Window
