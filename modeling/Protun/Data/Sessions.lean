import Mathlib.Data.List.Basic

/-!
# Sessions

Something that is open or closed, seen through its marks: `start a` opens `a`, and `stop` closes it
and names it, or names nothing if nothing was open. A mark opens or closes whether it should or not
(`openAfter`), so a list of marks may be wrong in two ways: a `stop` may name something else than
what is open (`Faithful` excludes it), and a `start` may come while something is open (`Clean`
excludes it).

* `paired_iff_clean`: in a faithful list that ends closed, every `start` is followed by exactly one
  `stop` that names it before the next `start` iff the list is clean.
-/

namespace Protun.Sessions

variable {α : Type}

/-- What can be seen of a session. -/
inductive Mark (α : Type) where
  | start (a : α)
  | stop (a : Option α)
  deriving DecidableEq

namespace Mark

/-- What is open after a mark. -/
def next : Option α → Mark α → Option α
  | _, start a => some a
  | _, stop _ => none

/-- A `start`. -/
def isStart : Mark α → Bool
  | start _ => true
  | stop _ => false

end Mark

/-- What is open after the marks `l`. -/
def openAfter (o : Option α) (l : List (Mark α)) : Option α := l.foldl Mark.next o

theorem openAfter_snoc (o : Option α) (l : List (Mark α)) (m : Mark α) :
    openAfter o (l ++ [m]) = m.next (openAfter o l) := by
  simp [openAfter]

/-- Every mark stands in the relation `P` to what is open before it. -/
def Throughout (P : Option α → Mark α → Prop) : Option α → List (Mark α) → Prop
  | _, [] => True
  | o, m :: l => P o m ∧ Throughout P (m.next o) l

theorem throughout_snoc {P : Option α → Mark α → Prop} {o : Option α} {l : List (Mark α)}
    {m : Mark α} : Throughout P o (l ++ [m]) ↔ Throughout P o l ∧ P (openAfter o l) m := by
  induction l generalizing o with
  | nil => simp [Throughout, openAfter]
  | cons x l ih =>
    rw [List.cons_append, Throughout, Throughout, ih, and_assoc]
    rfl

/-- Every `stop` names what is open. -/
def Faithful : Option α → List (Mark α) → Prop := Throughout fun o m => ∀ x, m = .stop x → x = o

/-- Every `start` comes with nothing open. -/
def Clean : Option α → List (Mark α) → Prop := Throughout fun o m => ∀ a, m = .start a → o = none

variable [DecidableEq α]

/-- How many of the marks up to the next `start` close `a`. -/
def closings (a : α) (l : List (Mark α)) : Nat :=
  (l.takeWhile fun m => !m.isStart).count (.stop (some a))

/-- Every `start` is followed by exactly one `stop` that names it before the next `start`. -/
def Paired (l : List (Mark α)) : Prop :=
  ∀ pre a post, l = pre ++ .start a :: post → closings a post = 1

@[simp] theorem closings_start (a b : α) (l : List (Mark α)) : closings a (.start b :: l) = 0 := rfl

theorem closings_stop (a : α) (x : Option α) (l : List (Mark α)) :
    closings a (.stop x :: l) = closings a l + if x = some a then 1 else 0 := by
  simp [closings, Mark.isStart, List.count_cons]

theorem paired_cons {m : Mark α} {l : List (Mark α)} :
    Paired (m :: l) ↔ (∀ a, m = .start a → closings a l = 1) ∧ Paired l := by
  constructor
  · refine fun h => ⟨fun a hm => h [] a l (by rw [hm]; rfl), fun pre a post hl => ?_⟩
    exact h (m :: pre) a post (by rw [hl]; rfl)
  · rintro ⟨hm, hl⟩ pre a post heq
    cases pre with
    | nil =>
      obtain ⟨rfl, rfl⟩ := List.cons.inj heq
      exact hm a rfl
    | cons x pre => exact hl pre a post (List.cons.inj heq).2

/-- With nothing open, nothing is closed before the next `start`. -/
theorem Faithful.closings_eq_zero {l : List (Mark α)} (h : Faithful none l) (a : α) :
    closings a l = 0 := by
  induction l with
  | nil => rfl
  | cons m l ih =>
    cases m with
    | start b => rfl
    | stop x =>
      obtain ⟨hx, hl⟩ := h
      rw [closings_stop, ih hl, hx x rfl]
      simp

/-- The invariant of the induction below: what is open at the start still has its `stop` to come. -/
theorem paired_iff_clean_from {o : Option α} {l : List (Mark α)} (hf : Faithful o l)
    (hend : openAfter o l = none) :
    ((∀ a, o = some a → closings a l = 1) ∧ Paired l) ↔ Clean o l := by
  induction l generalizing o with
  | nil =>
    have ho : o = none := hend
    subst ho
    simp [Paired, Clean, Throughout]
  | cons m l ih =>
    obtain ⟨hm, hl⟩ := hf
    have ih := ih hl hend
    cases m with
    | start b =>
      have hclean : Clean o (.start b :: l) ↔ o = none ∧ Clean (some b) l :=
        and_congr_left' ⟨fun h => h b rfl, fun h _ _ => h⟩
      rw [hclean, paired_cons]
      constructor
      · rintro ⟨ho, hb, hp⟩
        refine ⟨?_, ih.mp ⟨fun a ha => hb a (congrArg Mark.start (Option.some.inj ha)), hp⟩⟩
        cases o with
        | none => rfl
        | some a => exact absurd (ho a rfl) (by simp)
      · rintro ⟨rfl, hc⟩
        obtain ⟨hb, hp⟩ := ih.mpr hc
        exact ⟨nofun, fun a ha => hb a (congrArg some (Mark.start.inj ha)), hp⟩
    | stop x =>
      have hx : x = o := hm x rfl
      subst hx
      have hclean : Clean x (.stop x :: l) ↔ Clean none l :=
        and_iff_right fun a ha => by cases ha
      have hcount : ∀ a, x = some a → closings a (.stop x :: l) = 1 := by
        intro a ha
        rw [closings_stop, Faithful.closings_eq_zero hl a, if_pos ha]
      rw [hclean, paired_cons]
      exact ⟨fun h => ih.mp ⟨nofun, h.2.2⟩,
        fun h => ⟨hcount, nofun, (ih.mpr h).2⟩⟩

/-- **Every session is closed once and before the next iff none is opened over another.** -/
theorem paired_iff_clean {l : List (Mark α)} (hf : Faithful none l)
    (hend : openAfter none l = none) : Paired l ↔ Clean none l := by
  rw [← paired_iff_clean_from hf hend]
  exact ⟨fun h => ⟨nofun, h⟩, And.right⟩

end Protun.Sessions
