import Mathlib.Data.List.Nodup
import Mathlib.Logic.Relation

/-!
# Lists numbered by a counter

A `Numbered κ` is a list of keys, each with a number drawn from a counter. Drawing a number may or
may not lead to an entry (`issue`), and entries may be removed by any criterion. The numbers of the
entries increase along the list and stay below the counter; both are fields of the structure.

**`Later.mem`**: an entry of a later list whose number had been drawn earlier was an entry then.
So numbers identify entries for ever, although keys come back.
-/

namespace Protun

/-- Keys with numbers drawn from a counter. -/
structure Numbered (κ : Type) where
  /-- The number to be drawn next. -/
  next : Nat
  entries : List (Nat × κ)
  increasing : (entries.map Prod.fst).Pairwise (· < ·)
  below : ∀ x ∈ entries, x.1 < next

namespace Numbered

variable {κ : Type}

/-- No entries; the first number will be `first`. -/
def empty (first : Nat) : Numbered κ where
  next := first
  entries := []
  increasing := .nil
  below := by simp

/-- Draw a number, for the entry `k` if there is one. -/
def issue (s : Numbered κ) (k : Option κ) : Numbered κ where
  next := s.next + 1
  entries := s.entries ++ k.toList.map (Prod.mk s.next)
  increasing := by
    rw [List.map_append, List.pairwise_append]
    refine ⟨s.increasing, by cases k <;> simp, fun a ha b hb => ?_⟩
    obtain ⟨x, hx, rfl⟩ := List.mem_map.mp ha
    cases k with
    | none => simp at hb
    | some k =>
      obtain rfl : b = s.next := by simpa using hb
      exact s.below x hx
  below := by
    intro x hx
    rcases List.mem_append.mp hx with hx | hx
    · exact Nat.lt_succ_of_lt (s.below x hx)
    · cases k with
      | none => simp at hx
      | some k =>
        obtain rfl : x = (s.next, k) := by simpa using hx
        exact Nat.lt_succ_self _

/-- Keep the entries whose keys satisfy `p`. -/
def keep (s : Numbered κ) (p : κ → Bool) : Numbered κ where
  next := s.next
  entries := s.entries.filter (p ·.2)
  increasing := s.increasing.sublist (List.filter_sublist.map _)
  below x hx := s.below x (List.mem_filter.mp hx).1

/-- The numbers of the entries are distinct. -/
theorem nodup (s : Numbered κ) : (s.entries.map Prod.fst).Nodup :=
  s.increasing.imp Nat.ne_of_lt

theorem eq_of_number_eq {s : Numbered κ} {x y : Nat × κ} (hx : x ∈ s.entries) (hy : y ∈ s.entries)
    (h : x.1 = y.1) : x = y :=
  List.inj_on_of_nodup_map s.nodup hx hy h

/-! ## Later lists -/

/-- One change. -/
inductive Change : Numbered κ → Numbered κ → Prop where
  | issue (s : Numbered κ) (k : Option κ) : Change s (s.issue k)
  | keep (s : Numbered κ) (p : κ → Bool) : Change s (s.keep p)

/-- Any number of changes. -/
abbrev Later : Numbered κ → Numbered κ → Prop := Relation.ReflTransGen Change

theorem Change.next_le {s s' : Numbered κ} (h : Change s s') : s.next ≤ s'.next := by
  cases h with
  | issue k => exact Nat.le_succ _
  | keep p => exact Nat.le_refl _

theorem Change.mem {s s' : Numbered κ} (h : Change s s') {x : Nat × κ} (hx : x ∈ s'.entries)
    (hlt : x.1 < s.next) : x ∈ s.entries := by
  cases h with
  | issue k =>
    rcases List.mem_append.mp hx with hx | hx
    · exact hx
    · -- the new entry has the number drawn now
      obtain ⟨k', -, rfl⟩ := List.mem_map.mp hx
      exact absurd hlt (Nat.lt_irrefl _)
  | keep p => exact (List.mem_filter.mp hx).1

theorem Later.next_le {s s' : Numbered κ} (h : Later s s') : s.next ≤ s'.next := by
  induction h with
  | refl => exact Nat.le_refl _
  | tail _ hc ih => exact Nat.le_trans ih hc.next_le

/-- **Numbers are not reused.** -/
theorem Later.mem {s s' : Numbered κ} (h : Later s s') {x : Nat × κ} (hx : x ∈ s'.entries)
    (hlt : x.1 < s.next) : x ∈ s.entries := by
  induction h with
  | refl => exact hx
  | tail hl hc ih => exact ih (hc.mem hx (Nat.lt_of_lt_of_le hlt (Later.next_le hl)))

end Numbered

end Protun
