import Protun.Trace.Prog

/-!
# Properties of a history's past

* `Always P l`: every observation of `l` satisfies `P`, which may look at the state it was made
  in and at everything observed before it. Safety statements about whole runs are of this form.
* `lastOf f l`: the latest value `f` reads off an observation of `l`.
* `Since hold start l`: a `start` happened in `l` and everything after it satisfies `hold`.
* `Extends Q`: a program's history grows only by observations that satisfy `Q`. It is a preorder,
  so the rules of `Prog.lean` prove it of whole programs (`Prog.Rel`).
-/

namespace Protun.Trace

variable {σ ο β : Type}

/-- Every observation satisfies `P`, which sees the observations made before it. -/
def Always (P : List (ο × σ) → ο → σ → Prop) (l : List (ο × σ)) : Prop :=
  ∀ pre o s post, l = pre ++ (o, s) :: post → P pre o s

variable {P : List (ο × σ) → ο → σ → Prop}

theorem always_nil : Always P ([] : List (ο × σ)) := by
  intro pre o s post h
  exact absurd h (by simp)

theorem always_append {l seg : List (ο × σ)} (hl : Always P l)
    (hseg : ∀ pre o s post, seg = pre ++ (o, s) :: post → P (l ++ pre) o s) :
    Always P (l ++ seg) := by
  intro pre o s post h
  rcases List.append_eq_append_iff.mp h with ⟨mid, rfl, hs⟩ | ⟨mid, rfl, hs⟩
  · exact hseg mid o s post hs
  · cases mid with
    | nil => simpa using hseg [] o s post (by simpa using hs.symm)
    | cons x mid =>
      obtain ⟨rfl, -⟩ := List.cons.inj hs
      exact hl pre o s mid rfl

theorem Always.of_append {l seg : List (ο × σ)} (h : Always P (l ++ seg)) : Always P l :=
  fun pre o s post hl => h pre o s (post ++ seg) (by rw [hl]; simp)

theorem always_snoc {l : List (ο × σ)} {o : ο} {s : σ} :
    Always P (l ++ [(o, s)]) ↔ Always P l ∧ P l o s := by
  refine ⟨fun h => ⟨h.of_append, h l o s [] rfl⟩, fun ⟨hl, ho⟩ => ?_⟩
  refine always_append hl fun pre o' s' post h => ?_
  obtain ⟨rfl, h⟩ | ⟨_, h⟩ := List.cons_eq_append_iff.mp h
  · obtain ⟨h1, -⟩ := List.cons.inj h
    obtain ⟨rfl, rfl⟩ := Prod.mk.inj h1
    simpa using ho
  · exact absurd h.2 (by simp)

/-- The observation at a position. -/
theorem Always.getElem? {l : List (ο × σ)} (h : Always P l) {k : Nat} {o : ο} {s : σ}
    (hk : l[k]? = some (o, s)) : P (l.take k) o s := by
  obtain ⟨hlt, hget⟩ := List.getElem?_eq_some_iff.mp hk
  refine h (l.take k) o s (l.drop (k + 1)) ?_
  rw [← hget, List.getElem_cons_drop, List.take_append_drop]

/-- For a list that is given it is enough to look at every position. -/
theorem always_of_forall_lt {l : List (ο × σ)}
    (h : ∀ k < l.length, ∀ x ∈ l[k]?, P (l.take k) x.1 x.2) : Always P l := by
  rintro pre o s post rfl
  have hk := h pre.length (by simp) (o, s) (by simp)
  rwa [List.take_left] at hk

/-- The observations at two positions. -/
theorem split_getElem? {l : List (ο × σ)} {i j : Nat} {x y : ο × σ} (hi : l[i]? = some x)
    (hj : l[j]? = some y) (hij : i < j) :
    l = l.take i ++ x :: (l.take j).drop (i + 1) ++ y :: l.drop (j + 1) := by
  obtain ⟨hlt, rfl⟩ := List.getElem?_eq_some_iff.mp hj
  have hi' : (l.take j)[i]? = some x := by rw [List.getElem?_take_of_lt hij, hi]
  obtain ⟨hlt', rfl⟩ := List.getElem?_eq_some_iff.mp hi'
  have htake : (l.take j).take i = l.take i := by
    rw [List.take_take, Nat.min_eq_left (Nat.le_of_lt hij)]
  rw [List.getElem_cons_drop, ← htake, List.take_append_drop, List.getElem_cons_drop,
    List.take_append_drop]

theorem Always.imp {P' : List (ο × σ) → ο → σ → Prop} {l : List (ο × σ)} (h : Always P l)
    (hP : ∀ pre o s, P pre o s → P' pre o s) : Always P' l :=
  fun pre o s post hl => hP pre o s (h pre o s post hl)

/-! ## The latest value of an observation -/

/-- The latest value `f` reads off an observation. -/
def lastOf (f : ο → Option β) (l : List (ο × σ)) : Option β :=
  (l.filterMap fun x => f x.1).getLast?

theorem lastOf_snoc (f : ο → Option β) (l : List (ο × σ)) (o : ο) (s : σ) :
    lastOf f (l ++ [(o, s)]) = (f o).or (lastOf f l) := by
  unfold lastOf
  rw [List.filterMap_append]
  cases h : f o <;> simp [h]

theorem lastOf_snoc_some {f : ο → Option β} {o : ο} {b : β} (h : f o = some b)
    (l : List (ο × σ)) (s : σ) : lastOf f (l ++ [(o, s)]) = some b := by
  rw [lastOf_snoc, h]; rfl

theorem lastOf_snoc_none {f : ο → Option β} {o : ο} (h : f o = none) (l : List (ο × σ)) (s : σ) :
    lastOf f (l ++ [(o, s)]) = lastOf f l := by
  rw [lastOf_snoc, h]; rfl

/-- Observations `f` reads nothing off do not move its latest value. -/
theorem lastOf_append_of_none {f : ο → Option β} {seg : List (ο × σ)}
    (h : ∀ x ∈ seg, f x.1 = none) (l : List (ο × σ)) : lastOf f (l ++ seg) = lastOf f l := by
  have hseg : seg.filterMap (fun x => f x.1) = [] := List.filterMap_eq_nil_iff.mpr h
  unfold lastOf
  rw [List.filterMap_append, hseg, List.append_nil]

/-- Observations `f` reads only `b` off. -/
theorem lastOf_append_of_or {f : ο → Option β} {b : β} {seg : List (ο × σ)}
    (h : ∀ x ∈ seg, f x.1 = none ∨ f x.1 = some b) (l : List (ο × σ)) :
    lastOf f (l ++ seg) = lastOf f l ∨ lastOf f (l ++ seg) = some b := by
  induction seg generalizing l with
  | nil => exact .inl (by rw [List.append_nil])
  | cons x seg ih =>
    rw [List.append_cons]
    have hrest := ih (fun y hy => h y (List.mem_cons_of_mem x hy)) (l ++ [x])
    rcases h x List.mem_cons_self with hx | hx
    · rwa [lastOf_snoc_none hx] at hrest
    · rw [lastOf_snoc_some hx, or_self] at hrest
      exact .inr hrest

theorem lastOf_of_none {f : ο → Option β} {l : List (ο × σ)} (h : ∀ x ∈ l, f x.1 = none) :
    lastOf f l = none :=
  (lastOf_append_of_none h []).trans rfl

/-! ## Since an observation -/

/-- A `start` was observed, and everything observed after it satisfies `hold`. -/
def Since (hold start : ο → Prop) (l : List (ο × σ)) : Prop :=
  ∃ pre x post, l = pre ++ x :: post ∧ start x.1 ∧ ∀ y ∈ post, hold y.1

theorem not_since_nil {hold start : ο → Prop} : ¬ Since hold start ([] : List (ο × σ)) := by
  rintro ⟨pre, x, post, h, -⟩
  exact absurd h (by simp)

theorem since_snoc {hold start : ο → Prop} {l : List (ο × σ)} {x : ο × σ} :
    Since hold start (l ++ [x]) ↔ start x.1 ∨ (hold x.1 ∧ Since hold start l) := by
  constructor
  · rintro ⟨pre, y, post, h, hy, hpost⟩
    rcases List.eq_nil_or_concat post with rfl | ⟨post, z, rfl⟩
    · obtain rfl : x = y := by simpa using List.append_inj_right' h rfl
      exact .inl hy
    · have hlast : l = pre ++ y :: post ∧ x = z := by
        rw [List.concat_eq_append, ← List.cons_append, ← List.append_assoc] at h
        exact ⟨List.append_inj_left' h rfl, by simpa using List.append_inj_right' h rfl⟩
      obtain ⟨rfl, rfl⟩ := hlast
      exact .inr ⟨hpost x (by simp), pre, y, post, rfl, hy, fun w hw => hpost w (by simp [hw])⟩
  · rintro (hx | ⟨hx, pre, y, post, rfl, hy, hpost⟩)
    · exact ⟨l, x, [], rfl, hx, by simp⟩
    · refine ⟨pre, y, post ++ [x], by simp, hy, fun w hw => ?_⟩
      rcases List.mem_append.mp hw with hw | hw
      · exact hpost w hw
      · exact (List.mem_singleton.mp hw) ▸ hx

/-! ## Growing only by some observations -/

/-- `h'` continues `h` by observations that satisfy `Q`. -/
def Extends (Q : ο → σ → Prop) (h h' : Hist σ ο) : Prop :=
  ∃ seg, h'.past = h.past ++ seg ∧ ∀ x ∈ seg, Q x.1 x.2

instance isPreorder_extends (Q : ο → σ → Prop) : IsPreorder (Hist σ ο) (Extends Q) where
  refl h := ⟨[], by simp, by simp⟩
  trans := by
    rintro a b c ⟨s₁, h₁, q₁⟩ ⟨s₂, h₂, q₂⟩
    refine ⟨s₁ ++ s₂, by rw [h₂, h₁, List.append_assoc], fun x hx => ?_⟩
    rcases List.mem_append.mp hx with hx | hx
    · exact q₁ x hx
    · exact q₂ x hx

theorem extends_emit {Q : ο → σ → Prop} (h : Hist σ ο) {o : ο} (ho : Q o h.now) :
    Extends Q h (h.emit o) :=
  ⟨[(o, h.now)], rfl, by simpa using ho⟩

theorem extends_set {Q : ο → σ → Prop} (h : Hist σ ο) (s : σ) : Extends Q h (h.set s) :=
  ⟨[], by simp, by simp⟩

theorem Extends.imp {Q Q' : ο → σ → Prop} {h h' : Hist σ ο} (hQ : Extends Q h h')
    (himp : ∀ o s, Q o s → Q' o s) : Extends Q' h h' := by
  obtain ⟨seg, hs, hq⟩ := hQ
  exact ⟨seg, hs, fun x hx => himp _ _ (hq x hx)⟩

theorem Extends.lastOf {Q : ο → σ → Prop} {h h' : Hist σ ο} (hQ : Extends Q h h')
    {f : ο → Option β} (hf : ∀ o s, Q o s → f o = none) :
    Trace.lastOf f h'.past = Trace.lastOf f h.past := by
  obtain ⟨seg, hs, hq⟩ := hQ
  rw [hs]
  exact lastOf_append_of_none (fun x hx => hf _ _ (hq x hx)) _

/-- If every new observation satisfies `P`, whatever `Q` observations came before it, `Always P` is
kept. -/
theorem Extends.always {Q : ο → σ → Prop} {h h' : Hist σ ο} (hQ : Extends Q h h')
    (hP : ∀ seg o s, (∀ x ∈ seg, Q x.1 x.2) → Q o s → P (h.past ++ seg) o s)
    (ha : Always P h.past) : Always P h'.past := by
  obtain ⟨seg, hs, hq⟩ := hQ
  rw [hs]
  refine always_append ha fun pre o s post hseg => ?_
  subst hseg
  refine hP pre o s (fun x hx => hq x (List.mem_append_left _ hx)) (hq (o, s) ?_)
  exact List.mem_append_right _ List.mem_cons_self

end Protun.Trace
