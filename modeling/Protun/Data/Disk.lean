import Mathlib.Data.List.Basic
import Mathlib.Logic.Function.Basic

/-!
# Files, handles and writes that fail halfway

A `Disk` has the content of every file and the handles opened so far; a handle is named by its
number. Opening a file neither shortens it nor writes to it, and a file that does not exist counts
as an empty one. A handle opened for appending writes at the end of its file. Any other handle
writes at its offset, over what is there.

How the writes to come end is part of the disk (`outcomes`): each is complete or fails after a
number of elements, which are in the file then.

* `content_writeAll`, `handle_writeAll`: what a write leaves in the file and of the handle.
-/

namespace Protun

/-- An open file. -/
structure Handle (π : Type) where
  path : π
  append : Bool
  /-- Where the next write goes, unless it goes to the end. -/
  offset : Nat

/-- The files, the handles opened so far, and how the next writes end. -/
structure Disk (π α : Type) where
  content : π → List α
  handles : List (Handle π)
  /-- `some k`: the write fails after `k` elements, if it has more of them. -/
  outcomes : List (Option Nat)

variable {π α : Type}

namespace Handle

/-- The content `old` after `data` was written. -/
def put (h : Handle π) (data old : List α) : List α :=
  if h.append then old ++ data
  else old.take h.offset ++ data ++ old.drop (h.offset + data.length)

/-- The handle after `data` was written. -/
def next (h : Handle π) (data : List α) : Handle π := { h with offset := h.offset + data.length }

theorem put_of_append {h : Handle π} (happ : h.append = true) (data old : List α) :
    h.put data old = old ++ data := if_pos happ

theorem put_of_offset {h : Handle π} (happ : h.append = false) (data old : List α) :
    h.put data old = old.take h.offset ++ data ++ old.drop (h.offset + data.length) :=
  if_neg (by simp [happ])

theorem put_nil (h : Handle π) (old : List α) : h.put [] old = old := by
  unfold put
  split <;> simp

section Within

variable {h : Handle π} {old : List α} (hoff : h.offset ≤ old.length)
include hoff

/-- The offset stays within the file. -/
theorem offset_next_le (data : List α) : (h.next data).offset ≤ (h.put data old).length := by
  unfold next put
  split
  · rw [List.length_append]
    dsimp only
    omega
  · rw [List.length_append, List.length_append, List.length_take]
    dsimp only
    omega

/-- Two writes are one write of both. -/
theorem put_next (data data' : List α) :
    (h.next data).put data' (h.put data old) = h.put (data ++ data') old := by
  cases happ : h.append with
  | true =>
    have happ' : (h.next data).append = true := happ
    rw [put_of_append happ', put_of_append happ, put_of_append happ, List.append_assoc]
  | false =>
    have happ' : (h.next data).append = false := happ
    rw [put_of_offset happ', put_of_offset happ, put_of_offset happ]
    have hlen : (old.take h.offset ++ data).length = (h.next data).offset := by
      rw [List.length_append, List.length_take, Nat.min_eq_left hoff]
      rfl
    rw [List.take_append_of_le_length (Nat.le_of_eq hlen.symm),
      List.take_of_length_le (Nat.le_of_eq hlen), ← hlen, ← List.drop_drop, List.drop_left,
      List.drop_drop, List.length_append, Nat.add_assoc, List.append_assoc _ data data']

end Within

end Handle

namespace Disk

/-- Open a file, whatever is in it. -/
def openFile (path : π) (append : Bool) (d : Disk π α) : Nat × Disk π α :=
  (d.handles.length, { d with handles := d.handles ++ [⟨path, append, 0⟩] })

/-- The part of `data` that the next write brings to the file. -/
def part (d : Disk π α) (data : List α) : List α :=
  match d.outcomes.head? with
  | some (some k) => data.take k
  | _ => data

/-- The next write is complete. -/
def succeeds (d : Disk π α) (data : List α) : Bool := (d.part data).length = data.length

/-- The next write leaves nothing in the file if it fails. -/
def LeavesNoPart (d : Disk π α) (data : List α) : Prop := d.succeeds data = true ∨ d.part data = []

theorem handle_openFile (path : π) (append : Bool) (d : Disk π α) :
    (d.openFile path append).2.handles[(d.openFile path append).1]? = some ⟨path, append, 0⟩ := by
  simp [openFile]

theorem part_eq_of_succeeds {d : Disk π α} {data : List α} (hs : d.succeeds data = true) :
    d.part data = data := by
  have hlen : (d.part data).length = data.length := of_decide_eq_true hs
  unfold part at hlen ⊢
  split
  · rename_i k hk
    rw [hk] at hlen
    refine List.take_of_length_le ?_
    simp only [List.length_take] at hlen
    omega
  · rfl

variable [DecidableEq π]

/-- Write all of `data`: whether it is complete, and the disk after it. -/
def writeAll (i : Nat) (data : List α) (d : Disk π α) : Bool × Disk π α :=
  let d' := { d with outcomes := d.outcomes.tail }
  match d.handles[i]? with
  | some h =>
    (d.succeeds data,
      { d' with
        content := Function.update d.content h.path (h.put (d.part data) (d.content h.path))
        handles := d.handles.set i (h.next (d.part data)) })
  | none => (false, d')

variable {d : Disk π α} {i : Nat} {h : Handle π}

theorem writeAll_fst (hi : d.handles[i]? = some h) (data : List α) :
    (d.writeAll i data).1 = d.succeeds data := by
  unfold writeAll
  rw [hi]

theorem content_writeAll (hi : d.handles[i]? = some h) (data : List α) :
    (d.writeAll i data).2.content h.path = h.put (d.part data) (d.content h.path) := by
  unfold writeAll
  rw [hi]
  exact Function.update_self ..

theorem handle_writeAll (hi : d.handles[i]? = some h) (data : List α) :
    (d.writeAll i data).2.handles[i]? = some (h.next (d.part data)) := by
  have hlt : i < d.handles.length := (List.getElem?_eq_some_iff.mp hi).1
  unfold writeAll
  rw [hi]
  simp [hlt]

end Disk

end Protun
