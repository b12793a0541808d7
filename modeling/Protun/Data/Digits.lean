import Mathlib.Algebra.Group.Nat.Defs
import Mathlib.Data.List.Basic
import Mathlib.Data.List.DropRight
import Mathlib.Logic.Function.Basic

/-!
# Numbers written in digits and joined by a separator

`joined sep b l` is the text of the numbers `l` in the base `b`, joined by the character `sep`. No
digit is a separator, so the text can be split again.

A text may leave out one run of zeroes, with the two separators around it next to each other:
`elided sep b l l'` for the numbers before and behind the run. The pieces of such a text tell which
numbers were written, and `fill` puts the zeroes back.

* `foldl_digits`: a number is the sum of its digits.
* `toDigits_injective`, `splitOn_joined`: the pieces of a joined text are the numbers' digits.
* `fill_elided`: so are those of a text with a run left out, once it is filled.
-/

namespace Protun.Digits

/-! ## Digits -/

theorem digitChar_inj : ∀ d < 16, ∀ d' < 16, Nat.digitChar d = Nat.digitChar d' → d = d' := by
  decide

theorem digitChar_ne_separator : ∀ d < 16, Nat.digitChar d ≠ '.' ∧ Nat.digitChar d ≠ ':' := by
  decide

variable {b : Nat}

theorem mem_toDigits (hb : 1 < b) {n : Nat} {c : Char} (hc : c ∈ Nat.toDigits b n) :
    ∃ d < b, c = Nat.digitChar d := by
  induction n using Nat.strong_induction_on with
  | _ n ih =>
    rw [Nat.toDigits_eq_if hb] at hc
    split at hc
    · rename_i hlt
      exact ⟨n, hlt, List.mem_singleton.mp hc⟩
    · rename_i hge
      rcases List.mem_append.mp hc with hc | hc
      · exact ih (n / b) (Nat.div_lt_self (by omega) hb) hc
      · exact ⟨n % b, Nat.mod_lt _ (by omega), List.mem_singleton.mp hc⟩

theorem separator_not_mem_toDigits (hb : 1 < b) (hb' : b ≤ 16) {sep : Char}
    (hsep : sep = '.' ∨ sep = ':') (n : Nat) : sep ∉ Nat.toDigits b n := by
  intro hmem
  obtain ⟨d, hd, rfl⟩ := mem_toDigits hb hmem
  have hne := digitChar_ne_separator d (by omega)
  exact hsep.elim hne.1 hne.2

/-- A number can be read off its digits. -/
theorem toDigits_injective (hb : 1 < b) (hb' : b ≤ 16) : Function.Injective (Nat.toDigits b) := by
  intro n
  induction n using Nat.strong_induction_on with
  | _ n ih =>
    intro m h
    have hshort : n < b ↔ m < b := by
      have hn := Nat.length_toDigits_le_iff (n := n) hb Nat.one_pos
      have hm := Nat.length_toDigits_le_iff (n := m) hb Nat.one_pos
      rw [h] at hn
      rw [Nat.pow_one] at hn hm
      exact hn.symm.trans hm
    rw [Nat.toDigits_eq_if hb, Nat.toDigits_eq_if (n := m) hb] at h
    by_cases hn : n < b
    · rw [if_pos hn, if_pos (hshort.mp hn)] at h
      have hm := hshort.mp hn
      exact digitChar_inj n (by omega) m (by omega) (List.cons.inj h).1
    · rw [if_neg hn, if_neg (mt hshort.mpr hn)] at h
      obtain ⟨hinit, hlast⟩ := List.append_inj' h rfl
      have hdiv := ih (n / b) (Nat.div_lt_self (by omega) hb) hinit
      have hmod : ∀ k, k % b < 16 := fun k => lt_of_lt_of_le (Nat.mod_lt k (by omega)) hb'
      have hdigit := digitChar_inj (n % b) (hmod n) (m % b) (hmod m) (List.cons.inj hlast).1
      rw [← Nat.div_add_mod n b, ← Nat.div_add_mod m b, hdiv, hdigit]

/-- A number is what its last `m` digits in the base `b` write, modulo `b ^ m`. -/
theorem foldl_digits (b x m n : Nat) :
    ((List.range m).reverse.map fun i => x / b ^ i % b).foldl (fun n d => b * n + d) n =
      b ^ m * n + x % b ^ m := by
  induction m generalizing n with
  | zero => simp [Nat.mod_one]
  | succ m ih =>
    rw [List.range_succ, List.reverse_append, List.reverse_singleton, List.singleton_append,
      List.map_cons, List.foldl_cons, ih, Nat.mod_pow_succ, Nat.pow_succ, Nat.mul_add,
      Nat.mul_assoc, Nat.add_assoc, Nat.add_comm (x % b ^ m)]

/-! ## Joined numbers -/

/-- The text of the numbers `l`, joined by `sep`. -/
def joined (sep : Char) (b : Nat) (l : List Nat) : List Char :=
  [sep].intercalate (l.map (Nat.toDigits b))

/-- The text of the numbers `l` and `l'`, with a run of zeroes left out between them. -/
def elided (sep : Char) (b : Nat) (l l' : List Nat) : List Char :=
  joined sep b l ++ sep :: sep :: joined sep b l'

/-- Put the run of zeroes back that the empty pieces stand for, so that there are `n` pieces. -/
def fill (n : Nat) (pieces : List (List Char)) : List (List Char) :=
  if [] ∈ pieces then
    let front := pieces.takeWhile (· ≠ [])
    let back := pieces.rtakeWhile (· ≠ [])
    front ++ List.replicate (n - front.length - back.length) ['0'] ++ back
  else pieces

theorem nil_not_mem_digits (b : Nat) (l : List Nat) : [] ∉ l.map (Nat.toDigits b) := by
  intro hmem
  obtain ⟨n, -, hn⟩ := List.mem_map.mp hmem
  exact Nat.toDigits_ne_nil hn

theorem mem_joined {sep c : Char} {l : List Nat} (hc : c ∈ joined sep b l) :
    c = sep ∨ ∃ n, c ∈ Nat.toDigits b n := by
  induction l with
  | nil => cases hc
  | cons n l ih =>
    cases l with
    | nil =>
      refine .inr ⟨n, ?_⟩
      simpa [joined] using hc
    | cons m l =>
      have hcons : joined sep b (n :: m :: l) =
          Nat.toDigits b n ++ sep :: joined sep b (m :: l) := by
        simp [joined]
      rw [hcons] at hc
      rcases List.mem_append.mp hc with hc | hc
      · exact .inr ⟨n, hc⟩
      · exact (List.mem_cons.mp hc).elim .inl ih

theorem mem_elided {sep c : Char} {l l' : List Nat} (hc : c ∈ elided sep b l l') :
    c = sep ∨ ∃ n, c ∈ Nat.toDigits b n := by
  rcases List.mem_append.mp hc with hc | hc
  · exact mem_joined hc
  · simp only [List.mem_cons] at hc
    exact hc.elim .inl fun hc => hc.elim .inl mem_joined

section Joined

variable {sep : Char} {l l' : List Nat} (hsep : ∀ n, sep ∉ Nat.toDigits b n)
include hsep

theorem splitOn_joined (hl : l ≠ []) : (joined sep b l).splitOn sep = l.map (Nat.toDigits b) := by
  refine List.splitOn_intercalate sep (fun piece hpiece => ?_) (by simpa using hl)
  obtain ⟨n, -, rfl⟩ := List.mem_map.mp hpiece
  exact hsep n

theorem fill_joined (hl : l ≠ []) (n : Nat) :
    fill n ((joined sep b l).splitOn sep) = l.map (Nat.toDigits b) := by
  rw [splitOn_joined hsep hl]
  exact if_neg (nil_not_mem_digits b l)

/-- In front of an empty piece, the pieces that are not empty are the numbers. -/
theorem takeWhile_splitOn (rest : List (List Char)) :
    ((joined sep b l).splitOn sep ++ [] :: rest).takeWhile (· ≠ []) =
      l.map (Nat.toDigits b) := by
  by_cases hl : l = []
  · subst hl
    rfl
  · rw [splitOn_joined hsep hl, List.takeWhile_append_of_pos]
    · simp
    · intro piece hpiece
      exact decide_eq_true fun hnil => nil_not_mem_digits b l (hnil ▸ hpiece)

theorem rtakeWhile_splitOn (front : List (List Char)) :
    (front ++ [] :: (joined sep b l).splitOn sep).rtakeWhile (· ≠ []) =
      l.map (Nat.toDigits b) := by
  rw [List.rtakeWhile, List.reverse_append, List.reverse_cons, List.append_assoc]
  by_cases hl : l = []
  · subst hl
    rfl
  · rw [splitOn_joined hsep hl, List.takeWhile_append_of_pos]
    · simp
    · intro piece hpiece
      exact decide_eq_true fun hnil =>
        nil_not_mem_digits b l (hnil ▸ List.mem_reverse.mp hpiece)

/-- **A text with a run of zeroes left out** has the digits of all numbers, once it is filled. -/
theorem fill_elided (k : Nat) :
    fill (l.length + k + l'.length) ((elided sep b l l').splitOn sep) =
      (l ++ List.replicate k 0 ++ l').map (Nat.toDigits b) := by
  have hsplit : (elided sep b l l').splitOn sep =
      (joined sep b l).splitOn sep ++ [] :: (joined sep b l').splitOn sep := by
    have hinner := List.splitOn_append_cons_self (a := sep) [] (joined sep b l')
    unfold elided
    rw [List.splitOn_append_cons_self]
    exact congrArg _ hinner
  have hzero : ['0'] = Nat.toDigits b 0 := (Nat.toDigits_zero b).symm
  have hcount : l.length + k + l'.length - l.length - l'.length = k := by omega
  unfold fill
  dsimp only
  rw [hsplit, if_pos (by simp), takeWhile_splitOn hsep, rtakeWhile_splitOn hsep, hzero,
    List.length_map, List.length_map, hcount, List.map_append, List.map_append,
    List.map_replicate]

end Joined

end Protun.Digits
