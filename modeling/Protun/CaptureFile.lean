import Protun.Data.Disk
import Protun.Pcap

/-!
# What is in a capture file (`pcap_stream.rs`)

`PcapStream` on a disk (`diskFs`): `File::options().create(true).write(true).append(append)` opens
the target without truncating it, and the counter `size` starts with the length it has then. A call
of `write` is passed on to the file unless the counter says that the limit would be passed; from the
first call that is not, none is (`accepted`).

* `accepted_eq_admitted`: with writes that succeed, the calls that are passed on are those that fit
  into the limit, counted from `size`.
* **`capture_content_iff`**: in `Append` mode the file is the old content and then these, counted
  from the old length. In `Overwrite` mode it is to be these alone, counted from 0, which is so iff
  they cover the old content and would fit behind it too.
* **`capture_length_le`**: in `Append` mode the file does not grow beyond the limit as long as no
  write that fails leaves a part of its data in the file; the counter does not count that part.
* `overwrite_keeps_tail`, `partial_write_passes_limit`: the smallest files for which it goes wrong.
-/

namespace Protun

/-- `std::fs` on a disk: `parent` is `Path::parent`. A handle is a number. -/
def diskFs (parent : String → Option String) : Fs (Disk String UInt8) Nat where
  parent := parent
  createDirAll _ d := (.ok (), d)
  openFile path append d := let (i, d) := d.openFile path append; (.ok i, d)
  fromRawFd fd := fd.toNat
  len i d :=
    match d.handles[i]? with
    | some h => (.ok (d.content h.path).length, d)
    | none => (.error { kind := .other, message := "" }, d)
  writeAll i data d :=
    let (complete, d) := d.writeAll i data
    (if complete then .ok () else .error { kind := .other, message := "" }, d)
  syncAll _ d := (.ok (), d)

namespace PcapStream

/-! ## Sequences of calls -/

section Calls

variable {E F : Type} (fs : Fs E F)

/-- A call with this data is passed on to the file. -/
def accepts (p : PcapStream F) (data : Bytes) : Bool := !p.atMaxSize && !p.exceeds data.length

/-- Calls of `write`. -/
def writeEach : List Bytes → PcapStream F → E → PcapStream F × E
  | [], p, e => (p, e)
  | data :: ws, p, e => writeEach ws (p.write fs data e).1 (p.write fs data e).2

/-- The data of the calls that are passed on to the file. -/
def accepted : List Bytes → PcapStream F → E → List Bytes
  | [], _, _ => []
  | data :: ws, p, e =>
    let rest := accepted ws (p.write fs data e).1 (p.write fs data e).2
    if p.accepts data then data :: rest else rest

/-- `Good` holds of every call that is passed on to the file. -/
def EachWrite (Good : PcapStream F → E → Bytes → Prop) : List Bytes → PcapStream F → E → Prop
  | [], _, _ => True
  | data :: ws, p, e =>
    (p.accepts data = true → Good p e data) ∧
      EachWrite Good ws (p.write fs data e).1 (p.write fs data e).2

/-- The file takes all of the data. -/
def Succeeds (p : PcapStream F) (e : E) (data : Bytes) : Prop :=
  (fs.writeAll p.file data e).1 = .ok ()

variable {fs} {p : PcapStream F} {e : E} {data : Bytes} {ws : List Bytes}

theorem write_of_succeeds (h : p.accepts data = true) (hok : Succeeds fs p e data) :
    p.write fs data e =
      ({ p with size := p.size + data.length }, (fs.writeAll p.file data e).2) := by
  unfold accepts at h
  unfold Succeeds at hok
  simp only [Bool.and_eq_true, Bool.not_eq_true'] at h
  unfold write
  rw [if_neg (by simp [h.1]), if_neg (by simp [h.2])]
  cases hw : fs.writeAll p.file data e with
  | mk answer e' =>
    rw [hw] at hok
    rw [show answer = .ok () from hok]

theorem write_of_fails (h : p.accepts data = true) (hfail : ¬ Succeeds fs p e data) :
    p.write fs data e = (p, (fs.writeAll p.file data e).2) := by
  unfold accepts at h
  unfold Succeeds at hfail
  simp only [Bool.and_eq_true, Bool.not_eq_true'] at h
  unfold write
  rw [if_neg (by simp [h.1]), if_neg (by simp [h.2])]
  cases hw : fs.writeAll p.file data e with
  | mk answer e' =>
    rw [hw] at hfail
    cases answer with
    | error err => rfl
    | ok u => exact absurd rfl hfail

theorem write_of_not_accepts (h : p.accepts data = false) :
    p.write fs data e = ({ p with atMaxSize := true }, e) := by
  unfold accepts at h
  unfold write
  by_cases hmax : p.atMaxSize = true
  · rw [if_pos hmax, ← hmax]
  · rw [if_neg hmax, if_pos]
    simpa [hmax] using h

theorem accepts_of_atMaxSize (h : p.atMaxSize = true) (data : Bytes) : p.accepts data = false := by
  simp [accepts, h]

/-- A stream that has reached its limit does nothing. -/
theorem writeEach_of_atMaxSize (h : p.atMaxSize = true) : writeEach fs ws p e = (p, e) := by
  induction ws with
  | nil => rfl
  | cons data ws ih =>
    have hsame : p.write fs data e = (p, e) := if_pos h
    unfold writeEach
    rw [hsame]
    exact ih

theorem accepted_of_atMaxSize (h : p.atMaxSize = true) : accepted fs ws p e = [] := by
  induction ws with
  | nil => rfl
  | cons data ws ih =>
    have hsame : p.write fs data e = (p, e) := if_pos h
    unfold accepted
    rw [hsame, accepts_of_atMaxSize h]
    exact ih

theorem writeEach_append (ws ws' : List Bytes) (p : PcapStream F) (e : E) :
    writeEach fs (ws ++ ws') p e =
      writeEach fs ws' (writeEach fs ws p e).1 (writeEach fs ws p e).2 := by
  induction ws generalizing p e with
  | nil => rfl
  | cons data ws ih => exact ih _ _

/-! ## The calls that fit into the limit -/

/-- A file of this length is within the limit. -/
def fits (maxBytes : Option Nat) (length : Nat) : Bool :=
  match maxBytes with
  | some maxSize => length ≤ maxSize
  | none => true

/-- The calls up to the first that does not fit, if `start` bytes are counted before them. -/
def admitted (maxBytes : Option Nat) : Nat → List Bytes → List Bytes
  | _, [] => []
  | start, data :: ws =>
    if fits maxBytes (start + data.length) then
      data :: admitted maxBytes (start + data.length) ws
    else []

theorem fits_iff {maxBytes : Option Nat} {length : Nat} :
    fits maxBytes length = true ↔ ∀ maxSize ∈ maxBytes, length ≤ maxSize := by
  cases maxBytes <;> simp [fits]

theorem accepts_eq_fits (hmax : p.atMaxSize = false) (data : Bytes) :
    p.accepts data = fits p.maxBytes (p.size + data.length) := by
  unfold accepts exceeds fits
  rw [hmax]
  cases p.maxBytes with
  | none => rfl
  | some maxSize =>
    by_cases hle : p.size + data.length ≤ maxSize
    · simp [hle]
    · simp [hle, Nat.lt_of_not_le hle]

theorem accepted_eq_admitted (hok : EachWrite fs (Succeeds fs) ws p e)
    (hmax : p.atMaxSize = false) : accepted fs ws p e = admitted p.maxBytes p.size ws := by
  induction ws generalizing p e with
  | nil => rfl
  | cons data ws ih =>
    obtain ⟨hgood, hrest⟩ := hok
    unfold accepted admitted
    rw [← accepts_eq_fits hmax]
    dsimp only
    cases hacc : p.accepts data with
    | true =>
      rw [write_of_succeeds hacc (hgood hacc)] at hrest ⊢
      rw [if_pos rfl, if_pos rfl, ih hrest hmax]
    | false =>
      rw [write_of_not_accepts hacc]
      exact accepted_of_atMaxSize rfl

/-- Bytes that are counted but are not there make no difference if the rest fits behind them too. -/
theorem admitted_add_eq {maxBytes : Option Nat} (start : Nat) {extra : Nat}
    (h : ∀ maxSize ∈ maxBytes,
      extra + (start + (admitted maxBytes start ws).flatten.length) ≤ maxSize) :
    admitted maxBytes (extra + start) ws = admitted maxBytes start ws := by
  induction ws generalizing start with
  | nil => rfl
  | cons data ws ih =>
    unfold admitted at h ⊢
    by_cases hfits : fits maxBytes (start + data.length) = true
    · rw [if_pos hfits] at h ⊢
      have hlen : ∀ maxSize ∈ maxBytes, extra + (start + data.length +
          (admitted maxBytes (start + data.length) ws).flatten.length) ≤ maxSize := by
        intro maxSize hm
        have hle := h maxSize hm
        rw [List.flatten_cons, List.length_append] at hle
        omega
      rw [if_pos (fits_iff.mpr fun maxSize hm => by have := hlen maxSize hm; omega),
        Nat.add_assoc, ih _ hlen]
    · rw [if_neg hfits, if_neg]
      intro hfits'
      refine hfits (fits_iff.mpr fun maxSize hm => ?_)
      have hle := fits_iff.mp hfits' maxSize hm
      omega

theorem length_admitted_le {maxBytes : Option Nat} {start : Nat}
    (hne : admitted maxBytes start ws ≠ []) :
    ∀ maxSize ∈ maxBytes, start + (admitted maxBytes start ws).flatten.length ≤ maxSize := by
  induction ws generalizing start with
  | nil => exact absurd rfl hne
  | cons data ws ih =>
    intro maxSize hm
    unfold admitted at hne ⊢
    by_cases hfits : fits maxBytes (start + data.length) = true
    · rw [if_pos hfits, List.flatten_cons, List.length_append]
      by_cases hrest : admitted maxBytes (start + data.length) ws = []
      · rw [hrest]
        exact fits_iff.mp hfits maxSize hm
      · have hle := ih hrest maxSize hm
        omega
    · rw [if_neg hfits] at hne
      exact absurd rfl hne

/-- Data written over `old`, whose bytes are counted, is the data that fits iff it covers `old` and
would fit behind it. -/
theorem overwrite_admitted_iff {maxBytes : Option Nat} (old : Bytes) :
    ((admitted maxBytes old.length ws).flatten ++
          old.drop (admitted maxBytes old.length ws).flatten.length =
        (admitted maxBytes old.length ws).flatten ∧
      admitted maxBytes old.length ws = admitted maxBytes 0 ws) ↔
    old.length ≤ (admitted maxBytes 0 ws).flatten.length ∧
      ∀ maxSize ∈ maxBytes,
        old.length + (admitted maxBytes 0 ws).flatten.length ≤ maxSize := by
  constructor
  · rintro ⟨htail, hsame⟩
    rw [← hsame]
    have hle := List.drop_eq_nil_iff.mp (List.append_right_eq_self.mp htail)
    refine ⟨hle, fun maxSize hm => ?_⟩
    by_cases hne : admitted maxBytes old.length ws = []
    · rw [hne] at hle ⊢
      simp only [List.flatten_nil, List.length_nil, Nat.le_zero] at hle ⊢
      omega
    · exact length_admitted_le hne maxSize hm
  · rintro ⟨hle, hfits⟩
    have hsame : admitted maxBytes old.length ws = admitted maxBytes 0 ws := by
      refine admitted_add_eq 0 fun maxSize hm => ?_
      rw [Nat.zero_add]
      exact hfits maxSize hm
    rw [hsame]
    exact ⟨by rw [List.drop_eq_nil_of_le hle, List.append_nil], rfl⟩

end Calls

/-! ## On a disk -/

section OnDisk

variable {parent : String → Option String} {d d' : Disk String UInt8} {p : PcapStream Nat}
  {h : Handle String} {data : Bytes} {ws : List Bytes}

theorem succeeds_diskFs (hi : d.handles[p.file]? = some h) :
    Succeeds (diskFs parent) p d data ↔ d.succeeds data = true := by
  have hfst := Disk.writeAll_fst hi data
  unfold Succeeds diskFs
  dsimp only
  rw [hfst]
  cases d.succeeds data <;> simp

theorem openTarget_diskFs (path : String) (mode : FileWriteMode) (d : Disk String UInt8) :
    openTarget (diskFs parent) (.path path mode) d =
      (.ok (d.openFile path (mode = .append)).1, (d.openFile path (mode = .append)).2) := by
  have hparent : createParent (diskFs parent) path d = (.ok (), d) := by
    unfold createParent
    split <;> rfl
  unfold openTarget
  simp only [hparent]
  rfl

/-- What `new` leaves: a handle at the start of the file, which is as it was, and its length. -/
theorem new_diskFs {path : String} {mode : FileWriteMode} {maxBytes : Option Nat}
    (hnew : new (diskFs parent) ⟨.path path mode, maxBytes⟩ d = (.ok p, d')) :
    d'.handles[p.file]? = some ⟨path, mode = .append, 0⟩ ∧ d'.content = d.content ∧
      p.size = (d.content path).length ∧ p.maxBytes = maxBytes ∧ p.atMaxSize = false := by
  have hhandle := Disk.handle_openFile path (mode = .append) d
  unfold new at hnew
  rw [openTarget_diskFs] at hnew
  dsimp only at hnew
  have hlen : (diskFs parent).len (d.openFile path (mode = .append)).1
      (d.openFile path (mode = .append)).2 =
        (.ok (d.content path).length, (d.openFile path (mode = .append)).2) := by
    unfold diskFs
    dsimp only
    rw [hhandle]
    rfl
  rw [hlen] at hnew
  cases hnew
  exact ⟨hhandle, rfl, rfl, rfl, rfl⟩

/-- **The file after writes that succeed** is what one write of all the accepted data leaves. -/
theorem content_writeEach (hi : d.handles[p.file]? = some h)
    (hoff : h.offset ≤ (d.content h.path).length)
    (hok : EachWrite (diskFs parent) (Succeeds (diskFs parent)) ws p d) :
    (writeEach (diskFs parent) ws p d).2.content h.path =
      h.put (accepted (diskFs parent) ws p d).flatten (d.content h.path) := by
  induction ws generalizing p d h with
  | nil => exact (h.put_nil _).symm
  | cons data ws ih =>
    obtain ⟨hgood, hrest⟩ := hok
    unfold writeEach accepted
    dsimp only
    cases hacc : p.accepts data with
    | true =>
      have hpart := Disk.part_eq_of_succeeds ((succeeds_diskFs hi).mp (hgood hacc))
      have hcontent := Disk.content_writeAll hi data
      have hhandle := Disk.handle_writeAll hi data
      rw [hpart] at hcontent hhandle
      rw [write_of_succeeds hacc (hgood hacc)] at hrest ⊢
      have hoff' : (h.next data).offset ≤
          ((d.writeAll p.file data).2.content (h.next data).path).length := by
        rw [show (h.next data).path = h.path from rfl, hcontent]
        exact Handle.offset_next_le hoff data
      rw [if_pos rfl, List.flatten_cons, ← Handle.put_next hoff, ← hcontent]
      exact ih (p := { p with size := p.size + data.length }) hhandle hoff' hrest
    | false =>
      rw [write_of_not_accepts hacc] at hrest ⊢
      exact ih hi hoff hrest

/-- The counter is the length of the file that `h` appends to, and the length is within `bound`. -/
structure Counted (maxSize bound : Nat) (h : Handle String) (p : PcapStream Nat)
    (d : Disk String UInt8) : Prop where
  handle : d.handles[p.file]? = some h
  append : h.append = true
  maxBytes : p.maxBytes = some maxSize
  size : p.size = (d.content h.path).length
  le : (d.content h.path).length ≤ bound

section Counted

variable {maxSize bound : Nat}

theorem Counted.size_add_le (hc : Counted maxSize bound h p d) (hacc : p.accepts data = true) :
    p.size + data.length ≤ maxSize := by
  have hat : p.atMaxSize = false := by
    unfold accepts at hacc
    simp only [Bool.and_eq_true, Bool.not_eq_true'] at hacc
    exact hacc.1
  rw [accepts_eq_fits hat, hc.maxBytes] at hacc
  exact fits_iff.mp hacc maxSize rfl

theorem Counted.write (hbound : maxSize ≤ bound) (hc : Counted maxSize bound h p d)
    (hgood : p.accepts data = true → d.LeavesNoPart data) :
    ∃ h', h'.path = h.path ∧
      Counted maxSize bound h' (p.write (diskFs parent) data d).1
        (p.write (diskFs parent) data d).2 := by
  cases hacc : p.accepts data with
  | false =>
    rw [write_of_not_accepts hacc]
    exact ⟨h, rfl, hc.handle, hc.append, hc.maxBytes, hc.size, hc.le⟩
  | true =>
    have hcontent := Disk.content_writeAll hc.handle data
    rw [Handle.put_of_append hc.append] at hcontent
    refine ⟨h.next (d.part data), rfl, ?_⟩
    by_cases hs : d.succeeds data = true
    · rw [Disk.part_eq_of_succeeds hs] at hcontent
      have hlength : ((d.writeAll p.file data).2.content h.path).length =
          p.size + data.length := by
        rw [hcontent, List.length_append, hc.size]
      rw [write_of_succeeds hacc ((succeeds_diskFs hc.handle).mpr hs)]
      exact {
        handle := Disk.handle_writeAll hc.handle data
        append := hc.append
        maxBytes := hc.maxBytes
        size := hlength.symm
        le := Nat.le_trans (Nat.le_of_eq hlength) (Nat.le_trans (hc.size_add_le hacc) hbound) }
    · -- the write fails, and leaves the file as it was
      have hpart : d.part data = [] := (hgood hacc).resolve_left hs
      rw [hpart, List.append_nil] at hcontent
      have hlength := congrArg List.length hcontent
      rw [write_of_fails hacc (fun hok => hs ((succeeds_diskFs hc.handle).mp hok))]
      exact {
        handle := Disk.handle_writeAll hc.handle data
        append := hc.append
        maxBytes := hc.maxBytes
        size := hc.size.trans hlength.symm
        le := hlength ▸ hc.le }

/-- **The counter is the length** as long as no part of a write that failed is left in the file, so
the file stays within a bound that the limit is within. -/
theorem Counted.length_writeEach_le (hbound : maxSize ≤ bound) (hc : Counted maxSize bound h p d)
    (hwhole : EachWrite (diskFs parent) (fun _ d data => d.LeavesNoPart data) ws p d) :
    ((writeEach (diskFs parent) ws p d).2.content h.path).length ≤ bound := by
  induction ws generalizing p d h with
  | nil => exact hc.le
  | cons data ws ih =>
    obtain ⟨hgood, hrest⟩ := hwhole
    obtain ⟨h', hpath, hc'⟩ := hc.write hbound hgood
    rw [← hpath]
    exact ih hc' hrest

end Counted

end OnDisk

/-! ## The theorems -/

/-- **What a capture leaves in its file.** In `Append` mode it is what the file had, followed by the
data that fits into the limit behind it. In `Overwrite` mode it is to be the data that fits into the
limit: this is so iff that data is no shorter than what the file had and fits behind it too. -/
theorem capture_content_iff {parent : String → Option String} {path : String}
    {mode : FileWriteMode} {maxBytes : Option Nat} {d d' : Disk String UInt8} {p : PcapStream Nat}
    (hnew : new (diskFs parent) ⟨.path path mode, maxBytes⟩ d = (.ok p, d')) {ws : List Bytes}
    (hok : EachWrite (diskFs parent) (Succeeds (diskFs parent)) ws p d') :
    (mode = .overwrite →
      (((writeEach (diskFs parent) ws p d').2.content path =
          (accepted (diskFs parent) ws p d').flatten ∧
        accepted (diskFs parent) ws p d' = admitted maxBytes 0 ws) ↔
      (d.content path).length ≤ (admitted maxBytes 0 ws).flatten.length ∧
        ∀ maxSize ∈ maxBytes,
          (d.content path).length + (admitted maxBytes 0 ws).flatten.length ≤ maxSize)) ∧
    (mode = .append →
      (writeEach (diskFs parent) ws p d').2.content path =
          d.content path ++ (accepted (diskFs parent) ws p d').flatten ∧
        accepted (diskFs parent) ws p d' = admitted maxBytes (d.content path).length ws) := by
  obtain ⟨hhandle, hcontent, hsize, hmax, hat⟩ := new_diskFs hnew
  have hfile := content_writeEach hhandle (Nat.zero_le _) hok
  have hacc := accepted_eq_admitted hok hat
  rw [hmax, hsize] at hacc
  rw [hcontent] at hfile
  dsimp only at hfile
  constructor
  · rintro rfl
    rw [Handle.put_of_offset rfl, List.take_zero, List.nil_append, Nat.zero_add] at hfile
    rw [hfile, hacc]
    exact overwrite_admitted_iff (d.content path)
  · rintro rfl
    rw [Handle.put_of_append rfl] at hfile
    exact ⟨hfile, hacc⟩

/-- A disk on which the file `a` has this content. -/
def diskWith (content : Bytes) (outcomes : List (Option Nat)) : Disk String UInt8 where
  content path := if path = "a" then content else []
  handles := []
  outcomes := outcomes

/-- The stream that `new` gives for the file `a`, with its handle. -/
def captureTo (mode : FileWriteMode) (maxBytes : Option Nat) (size : Nat) : PcapStream Nat where
  fileInfo := ⟨.path "a" mode, maxBytes⟩
  file := 0
  size := size
  maxBytes := maxBytes
  atMaxSize := false

/-- Over a file of two bytes, a capture of three that is not limited is all that is left. -/
theorem overwrite_covers :
    (writeEach (diskFs fun _ => none) [[7], [8, 9]] (captureTo .overwrite none 2)
      ((diskWith [1, 2] []).openFile "a" false).2).2.content "a" = [7, 8, 9] := by
  have hnew : new (diskFs fun _ => none) ⟨.path "a" .overwrite, none⟩ (diskWith [1, 2] []) =
      (.ok (captureTo .overwrite none 2), ((diskWith [1, 2] []).openFile "a" false).2) := rfl
  have hok : EachWrite (diskFs fun _ => none) (Succeeds (diskFs fun _ => none)) [[7], [8, 9]]
      (captureTo .overwrite none 2) ((diskWith [1, 2] []).openFile "a" false).2 :=
    ⟨fun _ => rfl, fun _ => rfl, trivial⟩
  exact (((capture_content_iff hnew hok).1 rfl).mpr ⟨by decide, nofun⟩).1

/-- Over a file of five bytes, the last three stay behind a capture of two, and a limit of six bytes
stops the capture at once. -/
theorem overwrite_keeps_tail :
    (∀ maxBytes, new (diskFs fun _ => none) ⟨.path "a" .overwrite, maxBytes⟩
        (diskWith [1, 2, 3, 4, 5] []) =
      (.ok (captureTo .overwrite maxBytes 5),
        ((diskWith [1, 2, 3, 4, 5] []).openFile "a" false).2)) ∧
    (writeEach (diskFs fun _ => none) [[9, 9]] (captureTo .overwrite none 5)
      ((diskWith [1, 2, 3, 4, 5] []).openFile "a" false).2).2.content "a" = [9, 9, 3, 4, 5] ∧
    accepted (diskFs fun _ => none) [[9, 9]] (captureTo .overwrite (some 6) 5)
      ((diskWith [1, 2, 3, 4, 5] []).openFile "a" false).2 = [] ∧
    admitted (some 6) 0 [[9, 9]] = [[9, 9]] :=
  ⟨fun _ => rfl, rfl, rfl, rfl⟩

/-- **The limit of a file that is appended to.** As long as no write that fails leaves a part of its
data behind, the file is never longer than it was or than the limit. Once the limit is reached, no
call changes a file, however the writes end. -/
theorem capture_length_le {parent : String → Option String} {path : String} {maxSize : Nat}
    {d d' : Disk String UInt8} {p : PcapStream Nat}
    (hnew : new (diskFs parent) ⟨.path path .append, some maxSize⟩ d = (.ok p, d'))
    (ws : List Bytes) :
    (EachWrite (diskFs parent) (fun _ d data => d.LeavesNoPart data) ws p d' →
      ((writeEach (diskFs parent) ws p d').2.content path).length ≤
        max (d.content path).length maxSize) ∧
    ((writeEach (diskFs parent) ws p d').1.atMaxSize = true → ∀ ws',
      (writeEach (diskFs parent) (ws ++ ws') p d').2.content =
        (writeEach (diskFs parent) ws p d').2.content) := by
  obtain ⟨hhandle, hcontent, hsize, hmax, -⟩ := new_diskFs hnew
  constructor
  · intro hwhole
    have hc : Counted maxSize (max (d.content path).length maxSize) ⟨path, true, 0⟩ p d' := {
      handle := hhandle
      append := rfl
      maxBytes := hmax
      size := hcontent ▸ hsize
      le := hcontent ▸ Nat.le_max_left _ _ }
    exact hc.length_writeEach_le (Nat.le_max_right _ _) hwhole
  · intro hat ws'
    rw [writeEach_append, writeEach_of_atMaxSize hat]

/-- A write that fails at its start, and one that is complete. -/
theorem capture_length_le_limit :
    ((writeEach (diskFs fun _ => none) [[1, 2], [3, 4]] (captureTo .append (some 4) 1)
      ((diskWith [0] [some 0, none]).openFile "a" true).2).2.content "a").length ≤ 4 := by
  have hnew : new (diskFs fun _ => none) ⟨.path "a" .append, some 4⟩ (diskWith [0] [some 0, none]) =
      (.ok (captureTo .append (some 4) 1),
        ((diskWith [0] [some 0, none]).openFile "a" true).2) := rfl
  exact (capture_length_le hnew [[1, 2], [3, 4]]).1 ⟨fun _ => .inr rfl, fun _ => .inl rfl, trivial⟩

/-- Five of eight bytes are written before the first write fails. The second one fits into the limit
by the counter, and the file has thirteen bytes then, three more than the limit. -/
theorem partial_write_passes_limit :
    new (diskFs fun _ => none) ⟨.path "a" .append, some 10⟩ (diskWith [] [some 5, none]) =
      (.ok (captureTo .append (some 10) 0),
        ((diskWith [] [some 5, none]).openFile "a" true).2) ∧
    ((writeEach (diskFs fun _ => none) [List.replicate 8 1, List.replicate 8 2]
      (captureTo .append (some 10) 0)
      ((diskWith [] [some 5, none]).openFile "a" true).2).2.content "a").length = 13 :=
  ⟨rfl, rfl⟩

end PcapStream

end Protun
