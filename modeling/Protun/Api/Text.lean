import Protun.Api.Types
import Protun.Data.Digits

/-!
# What the text of an address says

`Display` writes an IPv6 address without its longest run of zero segments, and an address that
embeds an IPv4 address with the octets of the latter. Different addresses have different texts all
the same.

* `foldl_octets`, `foldl_segments`: an address is the number its octets or segments write.
* `isRun_longestZeroes`: what `longestZeroes` finds is a run of zeroes.
* `ipv4ToString_injective`, **`ipv6ToString_injective`**.
-/

namespace Protun

open Digits

/-! ## Octets and segments -/

theorem foldl_octets (a : BitVec 32) :
    (octets a).foldl (fun n o => 256 * n + o) 0 = a.toNat := by
  have hdigits : octets a = (List.range 4).reverse.map fun i => a.toNat / 256 ^ i % 256 := by
    unfold octets
    simp only [BitVec.toNat_ushiftRight, Nat.shiftRight_eq_div_pow]
    rfl
  rw [hdigits, foldl_digits, Nat.mul_zero, Nat.zero_add]
  exact Nat.mod_eq_of_lt a.isLt

theorem foldl_segments (a : BitVec 128) :
    (segments a).foldl (fun n s => 65536 * n + s) 0 = a.toNat := by
  have hdigits : segments a = (List.range 8).reverse.map fun i => a.toNat / 65536 ^ i % 65536 := by
    unfold segments
    simp only [BitVec.toNat_ushiftRight, Nat.shiftRight_eq_div_pow]
    rfl
  rw [hdigits, foldl_digits, Nat.mul_zero, Nat.zero_add]
  exact Nat.mod_eq_of_lt a.isLt

theorem octets_injective : Function.Injective octets := by
  intro a a' h
  apply BitVec.eq_of_toNat_eq
  rw [← foldl_octets, ← foldl_octets, h]

theorem segments_injective : Function.Injective segments := by
  intro a a' h
  apply BitVec.eq_of_toNat_eq
  rw [← foldl_segments, ← foldl_segments, h]

/-! ## IPv4 -/

theorem toList_ipv4ToString (a : BitVec 32) :
    (ipv4ToString a).toList = joined '.' 10 (octets a) := by
  unfold ipv4ToString joined
  rw [String.toList_intercalate, List.map_map]
  refine congrArg _ (List.map_congr_left fun n _ => ?_)
  simp

theorem ipv4ToString_injective : Function.Injective ipv4ToString := by
  intro a a' h
  have hsep := separator_not_mem_toDigits (b := 10) (by decide) (by decide) (.inl rfl)
  have hsplit : ∀ a, (ipv4ToString a).toList.splitOn '.' = (octets a).map (Nat.toDigits 10) := by
    intro a
    rw [toList_ipv4ToString, splitOn_joined hsep (by simp [octets])]
  have hdigits : (octets a).map (Nat.toDigits 10) = (octets a').map (Nat.toDigits 10) := by
    rw [← hsplit, ← hsplit, h]
  have hinj := (toDigits_injective (b := 10) (by decide) (by decide)).list_map
  exact octets_injective (hinj hdigits)

/-! ## The run of zeroes -/

/-- The span is a run of zeroes in the list. -/
def Span.IsRun (zeroes : Span) (segs : List Nat) : Prop :=
  ∃ front back, segs = front ++ List.replicate zeroes.len 0 ++ back ∧ front.length = zeroes.start

/-- The span that is being read ends where `read` ends. -/
def Span.EndsAt (current : Span) (read : List Nat) : Prop :=
  ∃ front, read = front ++ List.replicate current.len 0 ∧
    (current.len ≠ 0 → front.length = current.start)

theorem Span.EndsAt.zero {current : Span} {read : List Nat} (h : current.EndsAt read) :
    Span.EndsAt ⟨if current.len = 0 then read.length else current.start, current.len + 1⟩
      (read ++ [0]) := by
  obtain ⟨front, rfl, hstart⟩ := h
  refine ⟨front, ?_, fun _ => ?_⟩
  · rw [List.replicate_succ', List.append_assoc]
  · by_cases hlen : current.len = 0
    · simp [hlen]
    · rw [if_neg hlen]
      exact hstart hlen

theorem Span.EndsAt.isRun {current : Span} {read : List Nat} (h : current.EndsAt read)
    (hlen : current.len ≠ 0) (rest : List Nat) : current.IsRun (read ++ rest) := by
  obtain ⟨front, rfl, hstart⟩ := h
  exact ⟨front, rest, rfl, hstart hlen⟩

theorem isRun_longestZeroes {read segs : List Nat} {current longest : Span}
    (hcurrent : current.EndsAt read) (hlongest : longest.IsRun (read ++ segs)) :
    (longestZeroes read.length current longest segs).IsRun (read ++ segs) := by
  induction segs generalizing read current longest with
  | nil => exact hlongest
  | cons seg segs ih =>
    have hread : read ++ seg :: segs = (read ++ [seg]) ++ segs := by simp
    have hlength : read.length + 1 = (read ++ [seg]).length := by simp
    unfold longestZeroes
    rw [hread] at hlongest ⊢
    rw [hlength]
    by_cases hseg : seg = 0
    · subst hseg
      rw [if_pos rfl]
      refine ih hcurrent.zero ?_
      by_cases hlen : longest.len < current.len + 1
      · rw [if_pos hlen]
        exact hcurrent.zero.isRun (Nat.succ_ne_zero _) segs
      · rw [if_neg hlen]
        exact hlongest
    · rw [if_neg hseg]
      exact ih ⟨read ++ [seg], by simp, fun h => absurd rfl h⟩ hlongest

/-! ## IPv6 -/

/-- The address embeds an IPv4 address. -/
def IsMapped (a : BitVec 128) : Prop := (segments a).take 6 = [0, 0, 0, 0, 0, 65535]

instance (a : BitVec 128) : Decidable (IsMapped a) :=
  inferInstanceAs (Decidable ((segments a).take 6 = [0, 0, 0, 0, 0, 65535]))

theorem toList_fmtSubslice (segs : List Nat) :
    (fmtSubslice segs).toList = joined ':' 16 segs := by
  unfold fmtSubslice joined
  rw [String.toList_intercalate, List.map_map]
  refine congrArg _ (List.map_congr_left fun n _ => ?_)
  simp

theorem toList_fmt_elided {segs front back : List Nat} {zeroes : Span}
    (hsegs : segs = front ++ List.replicate zeroes.len 0 ++ back)
    (hstart : front.length = zeroes.start) :
    (fmtSubslice (segs.take zeroes.start) ++ "::" ++
      fmtSubslice (segs.drop (zeroes.start + zeroes.len))).toList = elided ':' 16 front back := by
  have hfront : segs.take zeroes.start = front := by
    rw [hsegs, List.append_assoc]
    exact List.take_left' hstart
  have hback : segs.drop (zeroes.start + zeroes.len) = back := by
    rw [hsegs]
    exact List.drop_left' (by rw [List.length_append, List.length_replicate, hstart])
  rw [hfront, hback, String.toList_append, String.toList_append, toList_fmtSubslice,
    toList_fmtSubslice, List.append_assoc]
  rfl

section NotMapped

variable {a : BitVec 128} (ha : ¬ IsMapped a)
include ha

/-- The segments are joined, as a whole or with a run of zeroes left out. -/
theorem toList_ipv6ToString :
    (ipv6ToString a).toList = joined ':' 16 (segments a) ∨
      ∃ front back k, segments a = front ++ List.replicate k 0 ++ back ∧
        (ipv6ToString a).toList = elided ':' 16 front back := by
  have hrun : (longestZeroes 0 ⟨0, 0⟩ ⟨0, 0⟩ (segments a)).IsRun (segments a) :=
    @isRun_longestZeroes [] (segments a) _ _ ⟨[], rfl, fun h => absurd rfl h⟩
      ⟨[], segments a, rfl, rfl⟩
  unfold IsMapped at ha
  unfold ipv6ToString
  dsimp only
  rw [if_neg ha]
  by_cases hlen : 1 < (longestZeroes 0 ⟨0, 0⟩ ⟨0, 0⟩ (segments a)).len
  · rw [if_pos hlen]
    obtain ⟨front, back, hsegs, hstart⟩ := hrun
    exact .inr ⟨front, back, _, hsegs, toList_fmt_elided hsegs hstart⟩
  · rw [if_neg hlen]
    exact .inl (toList_fmtSubslice _)

theorem fill_ipv6ToString :
    fill 8 ((ipv6ToString a).toList.splitOn ':') = (segments a).map (Nat.toDigits 16) := by
  have hsep := separator_not_mem_toDigits (b := 16) (by decide) (by decide) (.inr rfl)
  rcases toList_ipv6ToString ha with htext | ⟨front, back, k, hsegs, htext⟩
  · rw [htext]
    exact fill_joined hsep (by simp [segments]) 8
  · have hlength : 8 = front.length + k + back.length := by
      have h := congrArg List.length hsegs
      simpa [segments, Nat.add_assoc] using h
    rw [htext, hsegs, hlength]
    exact fill_elided hsep k

theorem dot_not_mem_ipv6ToString : '.' ∉ (ipv6ToString a).toList := by
  have hdigit := separator_not_mem_toDigits (b := 16) (by decide) (by decide) (.inl rfl)
  have hchar : ¬ ('.' = ':' ∨ ∃ n, '.' ∈ Nat.toDigits 16 n) := by
    rintro (hcolon | ⟨n, hn⟩)
    · exact absurd hcolon (by decide)
    · exact hdigit n hn
  rcases toList_ipv6ToString ha with htext | ⟨front, back, k, -, htext⟩
  · rw [htext]
    exact fun hmem => hchar (mem_joined hmem)
  · rw [htext]
    exact fun hmem => hchar (mem_elided hmem)

end NotMapped

theorem toNat_of_isMapped {a : BitVec 128} (h : IsMapped a) :
    a.toNat = 65535 * 2 ^ 32 + (a.truncate 32).toNat := by
  have hlt := a.isLt
  unfold IsMapped segments at h
  simp only [List.map_cons, List.map_nil, List.take_succ_cons, List.take_zero, List.cons.injEq,
    BitVec.toNat_ushiftRight, Nat.shiftRight_eq_div_pow] at h
  rw [BitVec.truncate_eq_setWidth, BitVec.toNat_setWidth]
  omega

theorem toList_ipv6ToString_of_isMapped {a : BitVec 128} (h : IsMapped a) :
    (ipv6ToString a).toList = "::ffff:".toList ++ (ipv4ToString (a.truncate 32)).toList := by
  unfold IsMapped at h
  unfold ipv6ToString
  dsimp only
  rw [if_pos h, String.toList_append]

theorem dot_mem_ipv4ToString (a : BitVec 32) : '.' ∈ (ipv4ToString a).toList := by
  rw [toList_ipv4ToString]
  simp [joined, octets]

/-- **Different addresses have different texts.** -/
theorem ipv6ToString_injective : Function.Injective ipv6ToString := by
  intro a a' h
  have hdot : ∀ a, '.' ∈ (ipv6ToString a).toList ↔ IsMapped a := by
    intro a
    by_cases ha : IsMapped a
    · rw [toList_ipv6ToString_of_isMapped ha]
      exact iff_of_true (List.mem_append_right _ (dot_mem_ipv4ToString _)) ha
    · exact iff_of_false (dot_not_mem_ipv6ToString ha) ha
  have hmapped : IsMapped a ↔ IsMapped a' := by
    rw [← hdot, ← hdot, h]
  by_cases ha : IsMapped a
  · have ha' := hmapped.mp ha
    have htext := congrArg String.toList h
    rw [toList_ipv6ToString_of_isMapped ha, toList_ipv6ToString_of_isMapped ha'] at htext
    have hlow := ipv4ToString_injective (String.toList_inj.mp (List.append_cancel_left htext))
    apply BitVec.eq_of_toNat_eq
    rw [toNat_of_isMapped ha, toNat_of_isMapped ha', hlow]
  · have ha' := mt hmapped.mpr ha
    have hinj := (toDigits_injective (b := 16) (by decide) (by decide)).list_map
    refine segments_injective (hinj ?_)
    rw [← fill_ipv6ToString ha, ← fill_ipv6ToString ha', h]

end Protun
